import MatterStrip.App.Device
import MatterStrip.Lib.Unwinding

/-!
Switching and colouring do not interfere.

A change of the level or of a colour attribute, and a step of the handler task, leave all of the node
but its strip alone; and what the node does, and when it can, depends on nothing of the strip. The
other way round, the level, the hue and the saturation that the strip holds depend on the attribute
changes alone, whatever the node and the handler do in between. Both are unwinding conditions
(`unwinds_switching`, `unwinds_colours`), so that the acts that do not matter can be left out of any
sequence.
-/

namespace MatterStrip

open Lib LightingManager

variable {n : ℕ} {linear : UInt16 → ℚ}

/-- The same application, with another strip. -/
def AppTask.withStrip (w : AppTask n) (strip : Strip n) : AppTask n := { w with strip := strip }

/-- The same node, with another strip. -/
def Node.withStrip (d : Node n) (strip : Strip n) : Node n := ⟨d.app.withStrip strip, d.onOff⟩

/-! ### What the node does depends on nothing of its strip -/

section Switching

variable {w : AppTask n} {d d' : Node n}

lemma AppTask.perform_withStrip (w : AppTask n) (strip : Strip n) (call : LightCall) :
    ∃ strip', (w.withStrip strip).perform call = (w.perform call).withStrip strip' := by
  cases call with
  | osTimerStart purpose ms => exact ⟨strip, rfl⟩
  | osTimerStop => exact ⟨strip, rfl⟩
  | actionInitiated aAction aActor => exact ⟨_, rfl⟩
  | actionCompleted aAction =>
    refine ⟨strip, ?_⟩
    unfold perform actionCompleted
    cases hsync : w.mSyncClusterToButtonAction <;> simp [withStrip, hsync]

lemma AppTask.absorb_withStrip (w : AppTask n) (strip : Strip n)
    (result : LightingManager × List LightCall) :
    ∃ strip', (w.withStrip strip).absorb result = (w.absorb result).withStrip strip' := by
  refine absorb_simulation (R := fun w w' => ∃ strip', w' = w.withStrip strip') result ?_
    ⟨strip, rfl⟩
  rintro w w' call ⟨strip, rfl⟩
  exact w.perform_withStrip strip call

lemma AppTask.initiateAction_withStrip (w : AppTask n) (strip : Strip n) (aActor : Int32)
    (aAction : Action) : ∃ strip', (w.withStrip strip).initiateAction aActor aAction =
      (w.initiateAction aActor aAction).withStrip strip' :=
  w.absorb_withStrip strip _

lemma AppTask.dispatchEvent_withStrip (w : AppTask n) (strip : Strip n) (event : AppEvent) :
    ∃ strip', (w.withStrip strip).dispatchEvent event =
      (w.dispatchEvent event).withStrip strip' := by
  cases event with
  | timerEvent handler => exact w.absorb_withStrip strip _
  | buttonEvent => exact w.initiateAction_withStrip strip _ _
  | lightEvent action actor => exact w.initiateAction_withStrip strip _ _

lemma Node.setOnOffValue_withStrip (linear : UInt16 → ℚ) (d : Node n) (strip : Strip n)
    (newValue : Bool) :
    ∃ strip', (d.withStrip strip).setOnOffValue linear newValue =
      (d.setOnOffValue linear newValue).withStrip strip' := by
  by_cases hsame : d.onOff = newValue
  · refine ⟨strip, ?_⟩
    rw [setOnOffValue_same linear hsame]
    exact setOnOffValue_same (d := d.withStrip strip) linear hsame
  · obtain ⟨strip', hact⟩ := d.app.initiateAction_withStrip strip kEventTypeLight
      (if newValue then .onAction else .offAction)
    refine ⟨strip', ?_⟩
    rw [setOnOffValue_other linear hsame, setOnOffValue_other (d := d.withStrip strip) linear hsame]
    exact congrArg (fun app => (⟨app, newValue⟩ : Node n)) hact

/-- **A step of the node can be taken with any strip**, and does the same to the rest of it. -/
lemma Node.step_withStrip (strip : Strip n) {a : NodeAct} (hstep : d.step linear a = some d') :
    ∃ strip', (d.withStrip strip).step linear a = some (d'.withStrip strip') := by
  cases a with
  | write newValue =>
    obtain rfl := Option.some.inj hstep
    obtain ⟨strip', h⟩ := setOnOffValue_withStrip linear d strip newValue
    exact ⟨strip', congrArg some h⟩
  | offWithEffect effect =>
    obtain rfl := Option.some.inj hstep
    by_cases hon : d.onOff = true
    · obtain ⟨strip', h⟩ := d.app.absorb_withStrip strip (d.app.light.onTriggerOffWithEffect effect)
      obtain ⟨strip'', h'⟩ := setOnOffValue_withStrip linear
        ⟨d.app.absorb (d.app.light.onTriggerOffWithEffect effect), d.onOff⟩ strip' false
      refine ⟨strip'', congrArg some ?_⟩
      have hon' : (d.withStrip strip).onOff = true := hon
      unfold offWithEffect
      rw [if_pos hon, if_pos hon', ← h']
      exact congrArg (fun app => setOnOffValue linear (⟨app, d.onOff⟩ : Node n) false) h
    · refine ⟨strip, congrArg some ?_⟩
      have hon' : ¬ (d.withStrip strip).onOff = true := hon
      unfold offWithEffect
      rw [if_neg hon, if_neg hon']
  | lightButton =>
    obtain rfl := Option.some.inj hstep
    exact ⟨strip, rfl⟩
  | expire =>
    obtain ⟨app, happ, rfl⟩ := Option.map_eq_some_iff.1 hstep
    obtain ⟨purpose, htimer, rfl⟩ := Option.map_eq_some_iff.1 happ
    refine ⟨strip, ?_⟩
    simp only [Node.step, AppTask.expire, withStrip, AppTask.withStrip, htimer, Option.map_some]
  | dispatch =>
    obtain ⟨app, happ, rfl⟩ := Option.map_eq_some_iff.1 hstep
    unfold AppTask.dispatch at happ
    split at happ
    · cases happ
    · next event queue hq =>
      obtain rfl := Option.some.inj happ
      obtain ⟨strip', h⟩ := AppTask.dispatchEvent_withStrip { d.app with queue := queue } strip event
      refine ⟨strip', ?_⟩
      simp only [Node.step, AppTask.dispatch, withStrip, AppTask.withStrip, hq, Option.map_some]
      exact congrArg (fun app => some (⟨app, d.onOff⟩ : Node n)) h
  | updateClusterState =>
    simp only [Node.step, updateClusterState] at hstep
    split at hstep
    · cases hstep
    · next scheduled hscheduled =>
      obtain rfl := Option.some.inj hstep
      obtain ⟨strip', h⟩ := setOnOffValue_withStrip linear
        ⟨{ d.app with scheduled := scheduled }, d.onOff⟩ strip d.app.light.isLightOn
      refine ⟨strip', ?_⟩
      simp only [Node.step, updateClusterState, withStrip, AppTask.withStrip, hscheduled]
      exact congrArg some h

end Switching

/-! ### What the strip holds of the attributes depends on nothing of the node -/

section Colouring

/-- The level, the hue and the saturation that the strip holds, and the colours of its devices. -/
def StripController.colouring (c : StripController n) : UInt8 × HueSat × Vector RGB n :=
  (c.onLevel, c.currentColorHS, c.bufferRGB)

lemma StripController.colouring_turnOnOff (c : StripController n) (state : Bool) :
    (c.turnOnOff state).colouring = c.colouring := by
  cases state <;> rfl

lemma StripController.colouring_verifyLevel (c : StripController n) :
    c.verifyLevel.colouring = c.colouring := by
  unfold colouring
  rw [verifyLevel_onLevel, verifyLevel_currentColorHS, verifyLevel_bufferRGB]

/-- What a call makes of them depends on nothing else. -/
lemma StripController.colouring_call {c c' : StripController n} (h : c.colouring = c'.colouring)
    (op : StripOp) : (c.call linear op).colouring = (c'.call linear op).colouring := by
  have hon : c.onLevel = c'.onLevel := congrArg Prod.fst h
  have hcolour : c.currentColorHS = c'.currentColorHS := congrArg (fun p => p.2.1) h
  have hbuffer : c.bufferRGB = c'.bufferRGB := congrArg (fun p => p.2.2) h
  cases op with
  | turnOnOff state =>
    exact (c.colouring_turnOnOff state).trans (h.trans (c'.colouring_turnOnOff state).symm)
  | setLevel v =>
    simp only [colouring, call, setLevel_onLevel, setLevel_currentColorHS, setLevel_bufferRGB, hon,
      hcolour, hbuffer]
  | setHue hue => simp only [colouring, call, setHue, setFixedColor, hon, hcolour]
  | setSaturation sat => simp only [colouring, call, setSaturation, setFixedColor, hon, hcolour]
  | setColorTemperature t => simp only [colouring, call, setColorTemperature, setFixedColor, hon]

lemma Strip.colouring_foldl {strip strip' : Strip n}
    (h : strip.ctl.colouring = strip'.ctl.colouring) (ops : List StripOp) :
    (ops.foldl (Strip.call linear) strip).ctl.colouring =
      (ops.foldl (Strip.call linear) strip').ctl.colouring := by
  refine foldl_simulation
    (R := fun strip strip' : Strip n => strip.ctl.colouring = strip'.ctl.colouring) ?_ ops _ _ h
  exact fun _ _ op h => StripController.colouring_call h op

variable {w : AppTask n} {d d' : Node n}

lemma AppTask.colouring_absorb (w : AppTask n) (result : LightingManager × List LightCall) :
    (w.absorb result).strip.ctl.colouring = w.strip.ctl.colouring := by
  refine absorb_invariant (I := fun w' => w'.strip.ctl.colouring = w.strip.ctl.colouring) result
    ?_ rfl
  intro w' call h
  refine Eq.trans ?_ h
  cases call with
  | osTimerStart purpose ms => rfl
  | osTimerStop => rfl
  | actionInitiated aAction aActor => exact StripController.colouring_turnOnOff _ _
  | actionCompleted aAction =>
    unfold perform actionCompleted
    simp only
    split <;> rfl

lemma Node.colouring_setOnOffValue (d : Node n) (newValue : Bool) :
    (d.setOnOffValue linear newValue).app.strip.ctl.colouring = d.app.strip.ctl.colouring := by
  by_cases hsame : d.onOff = newValue
  · rw [setOnOffValue_same linear hsame]
  · rw [setOnOffValue_other linear hsame]
    exact d.app.colouring_absorb _

/-- **A step of the node leaves the colouring of its strip alone.** -/
lemma Node.colouring_step {a : NodeAct} (hstep : d.step linear a = some d') :
    d'.app.strip.ctl.colouring = d.app.strip.ctl.colouring := by
  cases a with
  | write newValue =>
    obtain rfl := Option.some.inj hstep
    exact d.colouring_setOnOffValue newValue
  | offWithEffect effect =>
    obtain rfl := Option.some.inj hstep
    unfold offWithEffect
    split
    · rw [colouring_setOnOffValue]
      exact d.app.colouring_absorb _
    · rfl
  | lightButton =>
    obtain rfl := Option.some.inj hstep
    rfl
  | expire =>
    obtain ⟨app, happ, rfl⟩ := Option.map_eq_some_iff.1 hstep
    obtain ⟨purpose, -, rfl⟩ := Option.map_eq_some_iff.1 happ
    rfl
  | dispatch =>
    obtain ⟨app, happ, rfl⟩ := Option.map_eq_some_iff.1 hstep
    unfold AppTask.dispatch at happ
    split at happ
    · cases happ
    · next event queue hq =>
      obtain rfl := Option.some.inj happ
      cases event with
      | timerEvent handler => exact AppTask.colouring_absorb { d.app with queue := queue } _
      | buttonEvent => exact AppTask.colouring_absorb { d.app with queue := queue } _
      | lightEvent action actor => exact AppTask.colouring_absorb { d.app with queue := queue } _
  | updateClusterState =>
    simp only [Node.step, updateClusterState] at hstep
    split at hstep
    · cases hstep
    · obtain rfl := Option.some.inj hstep
      exact colouring_setOnOffValue _ _

lemma Transmitting.colouring_handlerStep (s : Transmitting n) :
    s.handlerStep.strip.ctl.colouring = s.strip.ctl.colouring := by
  obtain ⟨pc, strip, switched⟩ := s
  cases pc with
  | verifyLevel => exact StripController.colouring_verifyLevel _
  | encode dev =>
    unfold handlerStep
    simp only
    split <;> rfl
  | _ => rfl

end Colouring

/-! ### The two views of the device -/

def DeviceAct.isNode : DeviceAct → Bool
  | .node _ => true
  | _ => false

def DeviceAct.isAttributeChange : DeviceAct → Bool
  | .attributeChange _ _ _ => true
  | _ => false

namespace Device

variable {d d' : Device n} {a : DeviceAct}

/-- The node with its strip taken away. -/
def switching (d : Device n) : Node n := d.node.withStrip (Strip.init n fun _ => 0)

/-- What the strip holds of the attributes. -/
def colouring (d : Device n) : UInt8 × HueSat × Vector RGB n := d.node.app.strip.ctl.colouring

/-- Nodes that differ in the strip alone. -/
lemma exists_withStrip (h : d.switching = d'.switching) : ∃ strip, d'.node = d.node.withStrip strip := by
  obtain ⟨⟨⟨light, timer, queue, sync, led, strip, scheduled⟩, onOff⟩, pc⟩ := d
  obtain ⟨⟨⟨light', timer', queue', sync', led', strip', scheduled'⟩, onOff'⟩, pc'⟩ := d'
  simp only [switching, Node.withStrip, AppTask.withStrip, Node.mk.injEq, AppTask.mk.injEq] at h
  obtain ⟨⟨rfl, rfl, rfl, rfl, rfl, -, rfl⟩, rfl⟩ := h
  exact ⟨strip', rfl⟩

theorem unwinds_switching :
    Unwinds (step (n := n) linear) switching DeviceAct.isNode := by
  constructor
  · intro d a d' hhidden hstep
    rcases node_step hstep with ⟨act, rfl, -⟩ | ⟨-, strip, hstrip⟩
    · cases hhidden
    · unfold switching
      rw [hstrip]
      rfl
  · intro d e a d' hseen hview hstep
    cases a with
    | node act =>
      obtain ⟨node, hnode, rfl⟩ := Option.map_eq_some_iff.1 hstep
      obtain ⟨strip, hstrip⟩ := exists_withStrip hview
      obtain ⟨strip', hstep'⟩ := Node.step_withStrip strip hnode
      refine ⟨⟨node.withStrip strip', e.pc⟩, ?_, rfl⟩
      rw [step, hstrip, hstep', Option.map_some]
    | attributeChange clusterId attributeId value => cases hseen
    | handler => cases hseen

theorem unwinds_colours :
    Unwinds (step (n := n) linear) colouring DeviceAct.isAttributeChange := by
  constructor
  · intro d a d' hhidden hstep
    cases a with
    | node act =>
      obtain ⟨node, hnode, rfl⟩ := Option.map_eq_some_iff.1 hstep
      exact Node.colouring_step hnode
    | attributeChange clusterId attributeId value => cases hhidden
    | handler =>
      obtain rfl := Option.some.inj hstep
      exact Transmitting.colouring_handlerStep d.task
  · intro d e a d' hseen hview hstep
    cases a with
    | attributeChange clusterId attributeId value =>
      by_cases honoff : clusterId = onOffId ∧ attributeId = onOffAttributeId
      · rw [step, if_pos honoff] at hstep
        cases hstep
      · rw [step, if_neg honoff, AppTask.attributeChange_eq _ honoff] at hstep
        obtain rfl := Option.some.inj hstep
        refine ⟨_, if_neg honoff, ?_⟩
        unfold colouring
        simp only
        rw [AppTask.attributeChange_eq _ honoff]
        exact Strip.colouring_foldl hview _
    | node act => cases hseen
    | handler => cases hseen

/-- **Switching and colouring do not interfere.** From any sequence of acts that the device can take,
the changes of other attributes than OnOff and the steps of the handler can be left out, and all of
the node but its strip comes out the same; and the acts of the node and the steps of the handler can
be left out, and the level, the hue, the saturation and the colours of the devices come out the
same. -/
theorem noninterference (linear : UInt16 → ℚ) (n : ℕ) (d : Device n) (acts : List DeviceAct)
    (d' : Device n) (hexec : exec (step linear) d acts = some d') :
    (∃ e, exec (step linear) d (acts.filter DeviceAct.isNode) = some e ∧
      d'.switching = e.switching) ∧
    ∃ e, exec (step linear) d (acts.filter DeviceAct.isAttributeChange) = some e ∧
      d'.colouring = e.colouring :=
  ⟨unwinds_switching.exec_filter rfl hexec, unwinds_colours.exec_filter rfl hexec⟩

/-- A device is turned green and switched on, with steps of its handler in between. -/
theorem noninterference_green :
    ∃ d e f : Device 1,
      exec (step linearExact) (start 1 (fun _ => 0) false) [.handler,
        .attributeChange colorControlId 0 fun _ => 85, .node (.write true), .handler, .node .expire,
        .node .dispatch] = some d ∧
      exec (step linearExact) (start 1 (fun _ => 0) false)
        [.node (.write true), .node .expire, .node .dispatch] = some e ∧
      exec (step linearExact) (start 1 (fun _ => 0) false)
        [.attributeChange colorControlId 0 fun _ => 85] = some f ∧
      d.switching = e.switching ∧ d.colouring = f.colouring := by
  obtain ⟨⟨e, he, hswitching⟩, f, hf, hcolouring⟩ := noninterference linearExact 1
    (start 1 (fun _ => 0) false) [.handler, .attributeChange colorControlId 0 fun _ => 85,
      .node (.write true), .handler, .node .expire, .node .dispatch] _ rfl
  exact ⟨_, e, f, rfl, he, hf, hswitching, hcolouring⟩

end Device

end MatterStrip
