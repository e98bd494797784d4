import MatterStrip.App.Lit
import MatterStrip.Strip.Trace

/-!
What the application does to its strip, and so what the strip shows in a whole run.

Every step of the application is a short list of calls of the strip, or one iteration of its handler
(`stripSteps`), so that a run of the application is a sequence of steps of the strip alone
(`strip_of_run`), and all that is known of those holds of it. Of the registers that decide the frame,
`on` is kept by the state machine of the light and the other three by the attributes alone
(`written`), in the order in which they were written.
-/

namespace MatterStrip

open Lib LightingManager

/-- The call of the strip that `ActionInitiated` makes; `ActionCompleted` makes none. -/
def Callback.stripOp? : Callback → Option StripOp
  | .initiated aAction => some (.turnOnOff (aAction = .onAction))
  | .completed _ => none

/-- The calls of the strip in what a function of the light calls. -/
def stripOps (calls : List LightCall) : List StripOp :=
  (callbacks calls).filterMap Callback.stripOp?

/-- What an attribute other than OnOff is written to the strip as. -/
def attributeOps (clusterId attributeId : UInt32) (value : Memory UInt8) : List StripOp :=
  if clusterId = levelControlId then if attributeId = 0 then [.setLevel (value 0)] else []
  else if clusterId = colorControlId then
    (if attributeId = 0x00000000 then [.setHue (value 0)] else []) ++
      (if attributeId = 0x00000001 then [.setSaturation (value 0)] else []) ++
      (if attributeId = 0x00000007 then [.setColorTemperature (uint16At value)] else [])
  else []

namespace AppTask

variable {n : ℕ} (linear : UInt16 → ℚ) (w : AppTask n)

def eventOps : AppEvent → List StripOp
  | .timerEvent handler => stripOps (w.light.handle handler).2
  | .buttonEvent => stripOps (w.light.initiateAction kEventTypeButton w.buttonAction).2.2
  | .lightEvent action actor => stripOps (w.light.initiateAction actor action).2.2

/-- The steps of the strip in a step of the application. -/
def stripSteps : AppAct → List StripStep
  | .attributeChange clusterId attributeId value =>
    (if clusterId = onOffId ∧ attributeId = onOffAttributeId then
      stripOps (w.light.initiateAction kEventTypeLight
        (if value 0 ≠ 0 then .onAction else .offAction)).2.2
    else attributeOps clusterId attributeId value).map .call
  | .lightButton => []
  | .onTriggerOffWithEffect effect => (stripOps (w.light.onTriggerOffWithEffect effect).2).map .call
  | .enableAutoTurnOff _ => []
  | .setAutoTurnOffDuration _ => []
  | .expire => []
  | .dispatch =>
    match w.queue with
    | [] => []
    | event :: _ => (w.eventOps event).map .call
  | .stripHandler => [.handler]

variable {w} {w' : AppTask n}

/-! ### A step of the application, seen from the strip -/

lemma stripAfter_eq (strip : Strip n) (cbs : List Callback) :
    stripAfter strip cbs =
      ((cbs.filterMap Callback.stripOp?).map .call).foldl (Strip.exec linear) strip := by
  induction cbs generalizing strip with
  | nil => rfl
  | cons cb cbs ih =>
    cases cb with
    | initiated aAction => exact ih _
    | completed aAction => exact ih strip

lemma strip_absorb (result : LightingManager × List LightCall) :
    (w.absorb result).strip =
      ((stripOps result.2).map .call).foldl (Strip.exec linear) w.strip := by
  rw [absorb_strip, stripAfter_eq linear]
  rfl

lemma strip_attributeChange (clusterId attributeId : UInt32) (value : Memory UInt8) :
    (w.matterPostAttributeChangeCallback linear clusterId attributeId value).strip =
      (w.stripSteps (.attributeChange clusterId attributeId value)).foldl (Strip.exec linear)
        w.strip := by
  unfold matterPostAttributeChangeCallback stripSteps attributeOps
  by_cases honoff : clusterId = onOffId ∧ attributeId = onOffAttributeId
  · simp only [if_pos honoff]
    exact strip_absorb linear _
  · simp only [if_neg honoff]
    split_ifs <;> rfl

/-- **A step of the application is some calls of the strip, or an iteration.** -/
theorem step_strip {a : AppAct} (h : w.step linear a = some w') :
    w'.strip = (w.stripSteps a).foldl (Strip.exec linear) w.strip := by
  cases a with
  | attributeChange clusterId attributeId value =>
    obtain rfl := Option.some.inj h
    exact strip_attributeChange linear clusterId attributeId value
  | lightButton =>
    obtain rfl := Option.some.inj h
    rfl
  | onTriggerOffWithEffect effect =>
    obtain rfl := Option.some.inj h
    exact strip_absorb linear _
  | enableAutoTurnOff aOn =>
    obtain rfl := Option.some.inj h
    rfl
  | setAutoTurnOffDuration d =>
    obtain rfl := Option.some.inj h
    rfl
  | expire =>
    obtain ⟨purpose, -, rfl⟩ := Option.map_eq_some_iff.1 h
    rfl
  | dispatch =>
    simp only [AppTask.step, dispatch] at h
    split at h
    · cases h
    · next event queue hq =>
      obtain rfl := Option.some.inj h
      simp only [stripSteps, hq]
      cases event with
      | timerEvent handler => exact strip_absorb (w := { w with queue := queue }) linear _
      | buttonEvent => exact strip_absorb (w := { w with queue := queue }) linear _
      | lightEvent action actor => exact strip_absorb (w := { w with queue := queue }) linear _
  | stripHandler =>
    obtain rfl := Option.some.inj h
    rfl

/-- The steps of the strip in a run of the application, the first of which `Init` makes. -/
def stripRun (currentLedState : Bool) (log : List (AppTask n × AppAct)) : List StripStep :=
  .call (.turnOnOff currentLedState) :: emitted stripSteps log

variable {buffer : Memory UInt8} {currentLedState : Bool} {log : List (AppTask n × AppAct)}

/-- **A run of the application is a run of its strip.** -/
theorem strip_of_run (hrun : Run (step linear) (init n buffer currentLedState) log w) :
    w.strip = (stripRun currentLedState log).foldl (Strip.exec linear) (Strip.init n buffer) := by
  refine Run.history (J := fun log w => w.strip =
    (stripRun currentLedState log).foldl (Strip.exec linear) (Strip.init n buffer)) ?_ ?_ hrun
  · cases currentLedState <;> rfl
  · intro log w a w' h hstep
    rw [step_strip linear hstep, h, stripRun, stripRun, emitted_snoc, ← List.cons_append,
      List.foldl_append]

/-- **Every frame of a run of the application** is the frame that the specification asks for, for the
calls that the application makes. -/
theorem sent_of_run (hrun : Run (step linear) (init n buffer currentLedState) log w) :
    w.strip.sent.reverse = LastWriter.init.frames (temperatureHS linear) n false
      (stripRun currentLedState log) := by
  rw [strip_of_run linear hrun]
  exact (refines_init buffer).sent_foldl linear _

/-! ### The registers of the attributes -/

/-- What an act writes to an attribute of the strip other than OnOff. -/
def attributeWrites : AppAct → List StripOp
  | .attributeChange clusterId attributeId value =>
    if clusterId = onOffId ∧ attributeId = onOffAttributeId then []
    else attributeOps clusterId attributeId value
  | _ => []

/-- The registers that the attributes hold after a run, with `on` as it is at first. -/
def written (log : List (AppTask n × AppAct)) : LastWriter :=
  (log.flatMap fun p => attributeWrites p.2).foldl (LastWriter.write (temperatureHS linear))
    LastWriter.init

/-- Registers that differ in `on` at most. -/
structure Agree (spec spec' : LastWriter) : Prop where
  lvl : spec.lvl = spec'.lvl
  hue : spec.hue = spec'.hue
  sat : spec.sat = spec'.sat

variable {temperature : UInt16 → HueSat} {spec spec' : LastWriter} {ops : List StripOp}

lemma agree_init (on : Bool) : Agree { LastWriter.init with on := on } LastWriter.init :=
  ⟨rfl, rfl, rfl⟩

/-- Switching leaves the other registers alone. -/
lemma Agree.switches (h : Agree spec spec') (hops : ∀ op ∈ ops, ∃ b, op = .turnOnOff b) :
    Agree ((ops.map .call).foldl (LastWriter.exec temperature) spec) spec' := by
  induction ops generalizing spec with
  | nil => exact h
  | cons op ops ih =>
    obtain ⟨b, rfl⟩ := hops op (by simp)
    exact ih ⟨h.lvl, h.hue, h.sat⟩ fun op hop => hops op (by simp [hop])

/-- What is written to both, both hold. -/
lemma Agree.writes (h : Agree spec spec') :
    Agree ((ops.map .call).foldl (LastWriter.exec temperature) spec)
      (ops.foldl (LastWriter.write temperature) spec') := by
  induction ops generalizing spec spec' with
  | nil => exact h
  | cons op ops ih =>
    have hop : Agree (spec.write temperature op) (spec'.write temperature op) := by
      cases op with
      | turnOnOff b => exact ⟨h.lvl, h.hue, h.sat⟩
      | setLevel v =>
        simp only [LastWriter.write]
        split
        · exact ⟨rfl, h.hue, h.sat⟩
        · exact h
      | setHue hue => exact ⟨h.lvl, rfl, h.sat⟩
      | setSaturation sat => exact ⟨h.lvl, h.hue, rfl⟩
      | setColorTemperature t => exact ⟨h.lvl, rfl, rfl⟩
    exact ih hop

lemma switches_stripOps (calls : List LightCall) : ∀ op ∈ stripOps calls, ∃ b, op = .turnOnOff b := by
  intro op hop
  obtain ⟨cb, -, hcb⟩ := List.mem_filterMap.1 hop
  cases cb with
  | initiated aAction => exact ⟨_, (Option.some.inj hcb).symm⟩
  | completed aAction => cases hcb

/-- An act makes the calls of the attribute that it writes, or those of the light, or none. -/
lemma Agree.step (h : Agree spec spec') (w : AppTask n) (a : AppAct) :
    Agree ((w.stripSteps a).foldl (LastWriter.exec temperature) spec)
      ((attributeWrites a).foldl (LastWriter.write temperature) spec') := by
  cases a with
  | attributeChange clusterId attributeId value =>
    simp only [stripSteps, attributeWrites]
    by_cases honoff : clusterId = onOffId ∧ attributeId = onOffAttributeId
    · rw [if_pos honoff, if_pos honoff]
      exact h.switches (switches_stripOps _)
    · rw [if_neg honoff, if_neg honoff]
      exact h.writes
  | onTriggerOffWithEffect effect => exact h.switches (switches_stripOps _)
  | dispatch =>
    cases hq : w.queue with
    | nil =>
      simp only [stripSteps, hq]
      exact h
    | cons event queue =>
      simp only [stripSteps, hq]
      cases event with
      | timerEvent handler => exact h.switches (switches_stripOps _)
      | buttonEvent => exact h.switches (switches_stripOps _)
      | lightEvent action actor => exact h.switches (switches_stripOps _)
  | lightButton => exact h
  | enableAutoTurnOff aOn => exact h
  | setAutoTurnOffDuration d => exact h
  | expire => exact h
  | stripHandler => exact h

/-- The registers of the specification are those of the attributes, but for `on`. -/
lemma Agree.run (h : Agree spec spec') (log : List (AppTask n × AppAct)) :
    Agree ((emitted stripSteps log).foldl (LastWriter.exec temperature) spec)
      ((log.flatMap fun p => attributeWrites p.2).foldl (LastWriter.write temperature) spec') := by
  induction log generalizing spec spec' with
  | nil => exact h
  | cons p log ih =>
    rw [emitted, List.flatMap_cons, List.flatMap_cons, List.foldl_append, List.foldl_append]
    exact ih (h.step p.1 p.2)

/-! ### What is shown -/

/-- The strip is switched on exactly in the on states. -/
lemma turnedOn_of_run (hrun : Run (step linear) (init n buffer currentLedState) log w) :
    w.strip.ctl.turnedOn = w.light.mState.isOn := by
  obtain ⟨-, spec, href, hon⟩ :=
    hrun.invariant (shows_init n buffer currentLedState) fun _ _ _ h hstep => h.step hstep
  exact href.turnedOn.trans hon

/-- **What the strip shows is the state of the light and the attributes.** After any run of the
application that ends with an iteration of the strip handler, the last frame is the one of the level,
the hue and the saturation that were last written to the attributes, switched on exactly if the light
is on or turning on. -/
theorem last_frame_of_attributes (linear : UInt16 → ℚ) (n : ℕ) (buffer : Memory UInt8)
    (currentLedState : Bool) (log : List (AppTask n × AppAct)) (w w' : AppTask n)
    (hrun : Run (step linear) (init n buffer currentLedState) log w)
    (hlast : w.step linear .stripHandler = some w') :
    w'.strip.sent.head? =
      some ({ written linear log with on := w.light.mState.isOn }.shown n) := by
  have href := refines_run n linear buffer (stripRun currentLedState log)
  rw [← strip_of_run linear hrun] at href
  have hagree : Agree ((stripRun currentLedState log).foldl
      (LastWriter.exec (temperatureHS linear)) LastWriter.init) (written linear log) :=
    (agree_init currentLedState).run log
  generalize (stripRun currentLedState log).foldl (LastWriter.exec (temperatureHS linear))
    LastWriter.init = spec at href hagree
  have hon : spec.on = w.light.mState.isOn := href.turnedOn.symm.trans (turnedOn_of_run linear hrun)
  have hspec : spec = { written linear log with on := w.light.mState.isOn } := by
    obtain ⟨on, lvl, hue, sat⟩ := spec
    obtain ⟨rfl, rfl, rfl⟩ := hagree
    rw [← hon]
  obtain rfl := Option.some.inj hlast
  obtain ⟨href', -, hpend, hfresh⟩ := href.handler
  have hsent := hfresh (by simp [stripRun, StripStep.isTurnOnOff])
  rw [Strip.Fresh, href'.currentFrame hpend, hspec] at hsent
  exact hsent

/-- Two devices turned green at full level, while the light is off, and then switched on. -/
theorem last_frame_of_attributes_green :
    ∃ log w w', Run (step linearExact) (init 2 (fun _ => 0) false) log w ∧
      log.map Prod.snd = [.attributeChange colorControlId 0 fun _ => 85,
        .attributeChange colorControlId 1 fun _ => 255, .attributeChange levelControlId 0 fun _ => 255,
        .attributeChange onOffId onOffAttributeId fun _ => 1] ∧
      w.step linearExact .stripHandler = some w' ∧
      w'.strip.sent.head? = some ((⟨true, 255, 85, 255⟩ : LastWriter).shown 2) := by
  have hexec : exec (step linearExact) (init 2 (fun _ => 0) false)
      [.attributeChange colorControlId 0 fun _ => 85, .attributeChange colorControlId 1 fun _ => 255,
        .attributeChange levelControlId 0 fun _ => 255,
        .attributeChange onOffId onOffAttributeId fun _ => 1] = some _ := rfl
  have hframe := last_frame_of_attributes linearExact 2 (fun _ => 0) false _ _ _
    (run_execLog hexec) rfl
  refine ⟨_, _, _, run_execLog hexec, map_snd_execLog hexec, rfl,
    hframe.trans (congrArg (fun spec : LastWriter => some (spec.shown 2)) ?_)⟩
  rfl

/-! ### The LED -/

lemma turnedOn_call {strip : Strip n} {op : StripOp} (hop : ∀ b, op ≠ .turnOnOff b) :
    (strip.call linear op).ctl.turnedOn = strip.ctl.turnedOn := by
  cases op with
  | turnOnOff b => exact absurd rfl (hop b)
  | setLevel v => exact StripController.setLevel_turnedOn v
  | setHue hue => rfl
  | setSaturation sat => rfl
  | setColorTemperature t => rfl

/-- The LED and the strip are switched together. -/
def LedShows (w : AppTask n) : Prop := w.sLightLED = w.strip.ctl.turnedOn

lemma LedShows.perform (h : LedShows w) (call : LightCall) : LedShows (w.perform call) := by
  cases call with
  | osTimerStart purpose ms => exact h
  | osTimerStop => exact h
  | actionInitiated aAction aActor => exact (StripController.turnOnOff_turnedOn _).symm
  | actionCompleted aAction =>
    simp only [AppTask.perform, actionCompleted]
    split <;> exact h

lemma LedShows.absorb (h : LedShows w) (result : LightingManager × List LightCall) :
    LedShows (w.absorb result) :=
  absorb_invariant result (fun _ call hw => LedShows.perform hw call) h

lemma LedShows.call (h : LedShows w) {op : StripOp} (hop : ∀ b, op ≠ .turnOnOff b) :
    LedShows { w with strip := w.strip.call linear op } :=
  Eq.trans h (turnedOn_call linear hop).symm

lemma LedShows.attributeChange (h : LedShows w) (clusterId attributeId : UInt32)
    (value : Memory UInt8) :
    LedShows (w.matterPostAttributeChangeCallback linear clusterId attributeId value) := by
  unfold matterPostAttributeChangeCallback
  split_ifs
  all_goals first
    | exact h.absorb _
    | exact h
    | exact h.call linear (by simp)

lemma LedShows.step (h : LedShows w) {a : AppAct} (hstep : w.step linear a = some w') :
    LedShows w' := by
  cases a with
  | attributeChange clusterId attributeId value =>
    obtain rfl := Option.some.inj hstep
    exact h.attributeChange linear clusterId attributeId value
  | lightButton =>
    obtain rfl := Option.some.inj hstep
    exact h
  | onTriggerOffWithEffect effect =>
    obtain rfl := Option.some.inj hstep
    exact h.absorb _
  | enableAutoTurnOff aOn =>
    obtain rfl := Option.some.inj hstep
    exact h
  | setAutoTurnOffDuration d =>
    obtain rfl := Option.some.inj hstep
    exact h
  | expire =>
    obtain ⟨purpose, -, rfl⟩ := Option.map_eq_some_iff.1 hstep
    exact h
  | dispatch =>
    simp only [AppTask.step, dispatch] at hstep
    split at hstep
    · cases hstep
    · next event queue _ =>
      obtain rfl := Option.some.inj hstep
      have hw : LedShows { w with queue := queue } := h
      cases event with
      | timerEvent handler => exact hw.absorb _
      | buttonEvent => exact hw.absorb _
      | lightEvent action actor => exact hw.absorb _
  | stripHandler =>
    obtain rfl := Option.some.inj hstep
    show w.sLightLED = w.strip.handlerIteration.ctl.turnedOn
    rw [(Strip.handlerIteration_eq w.strip).1]
    exact Eq.trans h StripController.verifyLevel_turnedOn.symm

/-- **The LED, the strip and the state of the light never disagree.** In every state of every run the
LED is lit, and the strip switched on, exactly if the light is on or turning on. -/
theorem led_iff_on (linear : UInt16 → ℚ) (n : ℕ) (buffer : Memory UInt8) (currentLedState : Bool)
    (log : List (AppTask n × AppAct)) (w : AppTask n)
    (hrun : Run (step linear) (init n buffer currentLedState) log w) :
    w.sLightLED = w.light.mState.isOn ∧ w.strip.ctl.turnedOn = w.light.mState.isOn := by
  have hinit : LedShows (init n buffer currentLedState) := by cases currentLedState <;> rfl
  have hled : LedShows w :=
    hrun.invariant (I := LedShows) hinit fun _ _ _ h hstep => h.step linear hstep
  have hturned := turnedOn_of_run linear hrun
  exact ⟨Eq.trans hled hturned, hturned⟩

/-- The light is switched on by its button. -/
theorem led_iff_on_button :
    ∃ log w, Run (step linearExact) (init 1 (fun _ => 0) false) log w ∧
      log.map Prod.snd = [.lightButton, .dispatch] ∧ w.light.mState = .onInitiated ∧
      w.sLightLED = true := by
  obtain ⟨log, hrun, hlog⟩ := exists_run_of_exec (step linearExact) (init 1 (fun _ => 0) false)
    [.lightButton, .dispatch] rfl
  exact ⟨log, _, hrun, hlog, rfl, (led_iff_on linearExact 1 (fun _ => 0) false log _ hrun).1⟩

end AppTask

end MatterStrip
