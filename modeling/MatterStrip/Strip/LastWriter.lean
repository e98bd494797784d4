import MatterStrip.Lib.Run
import MatterStrip.Strip.Controller

/-!
The strip controller, with every call and every handler iteration executed whole, refines a
last-writer-wins specification.

The specification (`LastWriter`) keeps four registers and nothing else: what was last written is
what the strip shows. The simulation relation (`Refines`) says how the controller holds these
registers, and when its last frame may be stale: only while a transmission is requested or the
level is still to be verified. `turnOnOff(true)` requests nothing; it leaves the level behind the
on level instead, and `verifyLevel` makes up for it.
-/

namespace MatterStrip

open Lib

/-! ### The specification -/

structure LastWriter where
  on : Bool
  lvl : UInt8
  hue : UInt8
  sat : UInt8
  deriving DecidableEq, Repr

namespace LastWriter

def init : LastWriter := ⟨false, 100, 0, 0⟩

/-- What a call writes; `temperature` is the hue and saturation of a colour temperature. -/
def write (temperature : UInt16 → HueSat) (spec : LastWriter) : StripOp → LastWriter
  | .turnOnOff b => { spec with on := b }
  | .setLevel v => if v > 0 then { spec with lvl := v } else spec
  | .setHue h => { spec with hue := h }
  | .setSaturation s => { spec with sat := s }
  | .setColorTemperature t =>
    { spec with hue := (temperature t).hue, sat := (temperature t).saturation }

/-- The level at which the strip is to show its colour. -/
def level (spec : LastWriter) : UInt8 := if spec.on then spec.lvl else 0

/-- The frame that the specification asks of a strip of `n` devices. -/
def shown (spec : LastWriter) (n : ℕ) : List UInt8 :=
  frame spec.level (List.replicate n (convertHStoRGB ⟨spec.hue, spec.sat⟩))

end LastWriter

/-! ### The controller, step by step -/

/-- A step of the controller: a call, or an iteration of `stripControllerHandler`. -/
inductive StripStep
  | call (op : StripOp)
  | handler
  deriving DecidableEq, Repr

namespace StripStep

def isTurnOnOff : StripStep → Bool
  | .call (.turnOnOff _) => true
  | _ => false

end StripStep

def Strip.exec {n : ℕ} (linear : UInt16 → ℚ) (w : Strip n) : StripStep → Strip n
  | .call op => w.call linear op
  | .handler => w.handlerIteration

/-- A step of the specification, which a handler iteration leaves alone. -/
def LastWriter.exec (temperature : UInt16 → HueSat) (spec : LastWriter) : StripStep → LastWriter
  | .call op => spec.write temperature op
  | .handler => spec

/-! ### The simulation -/

section Simulation

variable {n : ℕ} {w : Strip n} {spec : LastWriter} {switched : Bool}

/-- The last frame is the frame that the controller would build now. -/
def Strip.Fresh (w : Strip n) : Prop := w.sent.head? = some w.ctl.currentFrame

/-- How a strip holds the registers of the specification; `switched` says that the strip has been
switched on or off at least once. -/
structure Refines (w : Strip n) (spec : LastWriter) (switched : Bool) : Prop where
  level : w.ctl.LevelInv
  turnedOn : w.ctl.turnedOn = spec.on
  onLevel : w.ctl.onLevel = spec.lvl
  colour : w.ctl.currentColorHS = ⟨spec.hue, spec.sat⟩
  buffer : w.ctl.bufferRGB = Vector.replicate n (convertHStoRGB ⟨spec.hue, spec.sat⟩)
  /-- a strip that is on has been switched on -/
  on_switched : spec.on = true → switched = true
  /-- the frame is stale only while a transmission or a level is pending -/
  fresh : switched = true →
    w.ctl.transmitRequest = true ∨ w.ctl.levelPending = true ∨ w.Fresh

theorem refines_init (buffer : Memory UInt8) :
    Refines (Strip.init n buffer) LastWriter.init false := by
  refine ⟨StripController.levelInv_init, rfl, rfl, rfl, ?_, by simp [LastWriter.init], by simp⟩
  have hwhite : convertHStoRGB ⟨LastWriter.init.hue, LastWriter.init.sat⟩ = rgbWhite := by decide
  rw [hwhite]
  rfl

lemma StripController.replicate_setFixedColor (s : StripController n) :
    s.setFixedColor.bufferRGB = Vector.replicate n (convertHStoRGB s.currentColorHS) := rfl

/-- A call leaves the frame stale only with a transmission or a level pending. -/
lemma Refines.fresh_call (h : Refines w spec switched) (linear : UInt16 → ℚ) (op : StripOp) :
    (w.call linear op).ctl.transmitRequest = true ∨ (w.call linear op).ctl.levelPending = true ∨
      (w.call linear op).Fresh := by
  rcases h.level.call_pending linear op with hreq | hpend | ⟨hsame, hon⟩
  · exact Or.inl hreq
  · exact Or.inr (Or.inl hpend)
  · have hsw := h.on_switched (h.turnedOn.symm.trans hon)
    have hw : w.call linear op = w := by rw [Strip.call, hsame]
    rw [hw]
    exact h.fresh hsw

theorem Refines.call (h : Refines w spec switched) (linear : UInt16 → ℚ) (op : StripOp) :
    Refines (w.call linear op) (spec.write (temperatureHS linear) op)
      (switched || StripStep.isTurnOnOff (.call op)) := by
  have hlevel := h.level.call linear op
  have hfresh := h.fresh_call linear op
  cases op with
  | turnOnOff b =>
    show Refines _ _ (switched || true)
    rw [Bool.or_true]
    cases b <;>
      exact ⟨hlevel, rfl, h.onLevel, h.colour, h.buffer, fun _ => rfl, fun _ => hfresh⟩
  | setLevel v =>
    show Refines _ _ (switched || false)
    rw [Bool.or_false]
    have hspec : spec.write (temperatureHS linear) (.setLevel v) =
        { spec with lvl := if v > 0 then v else spec.lvl } := by
      simp only [LastWriter.write]; split <;> rfl
    rw [hspec]
    refine ⟨hlevel, ?_, ?_, ?_, ?_, h.on_switched, fun _ => hfresh⟩
    · exact StripController.setLevel_turnedOn v |>.trans h.turnedOn
    · exact (StripController.setLevel_onLevel v).trans (by rw [h.onLevel])
    · exact (StripController.setLevel_currentColorHS v).trans h.colour
    · exact (StripController.setLevel_bufferRGB v).trans h.buffer
  | setHue hue =>
    show Refines _ _ (switched || false)
    rw [Bool.or_false]
    have hcol : { w.ctl.currentColorHS with hue := hue } = (⟨hue, spec.sat⟩ : HueSat) := by
      rw [h.colour]
    exact ⟨hlevel, h.turnedOn, h.onLevel, hcol,
      (StripController.replicate_setFixedColor _).trans (congrArg _ (congrArg _ hcol)),
      h.on_switched, fun _ => hfresh⟩
  | setSaturation sat =>
    show Refines _ _ (switched || false)
    rw [Bool.or_false]
    have hcol : { w.ctl.currentColorHS with saturation := sat } = (⟨spec.hue, sat⟩ : HueSat) := by
      rw [h.colour]
    exact ⟨hlevel, h.turnedOn, h.onLevel, hcol,
      (StripController.replicate_setFixedColor _).trans (congrArg _ (congrArg _ hcol)),
      h.on_switched, fun _ => hfresh⟩
  | setColorTemperature t =>
    show Refines _ _ (switched || false)
    rw [Bool.or_false]
    exact ⟨hlevel, h.turnedOn, h.onLevel, rfl, rfl, h.on_switched, fun _ => hfresh⟩

/-! ### The handler -/

/-- What an iteration does: the level is verified, and a requested frame is sent. -/
lemma Strip.handlerIteration_eq (w : Strip n) :
    w.handlerIteration.ctl = { w.ctl.verifyLevel with transmitRequest := false } ∧
      w.handlerIteration.sent =
        if w.ctl.verifyLevel.transmitRequest then w.ctl.verifyLevel.currentFrame :: w.sent
        else w.sent := by
  unfold handlerIteration
  simp only
  cases hreq : w.ctl.verifyLevel.transmitRequest with
  | true =>
    simp only [if_true]
    exact ⟨rfl, dataTransmit_sent _⟩
  | false =>
    simp only [Bool.false_eq_true, if_false]
    refine ⟨?_, trivial⟩
    rw [← hreq]

/-- After an iteration nothing is pending, and the frame is fresh if the strip was ever switched. -/
theorem Refines.handler (h : Refines w spec switched) :
    Refines w.handlerIteration spec switched ∧
      w.handlerIteration.ctl.transmitRequest = false ∧
      w.handlerIteration.ctl.levelPending = false ∧
      (switched = true → w.handlerIteration.Fresh) := by
  obtain ⟨hctl, hsent⟩ := w.handlerIteration_eq
  have hreq : w.handlerIteration.ctl.transmitRequest = false := by rw [hctl]
  have hpend : w.handlerIteration.ctl.levelPending = false := by
    rw [hctl]; exact StripController.levelPending_verifyLevel (s := w.ctl)
  have hframe : w.handlerIteration.ctl.currentFrame = w.ctl.verifyLevel.currentFrame := by
    rw [hctl]; rfl
  have hfresh : switched = true → w.handlerIteration.Fresh := by
    intro hsw
    unfold Strip.Fresh
    rw [hframe, hsent]
    cases hr : w.ctl.verifyLevel.transmitRequest with
    | true => rfl
    | false =>
      -- nothing was requested, so nothing was pending before either
      have hnp : w.ctl.levelPending = false := by
        cases hp : w.ctl.levelPending with
        | false => rfl
        | true => rw [StripController.verifyLevel_of_pending hp] at hr; exact absurd hr (by simp)
      rw [StripController.verifyLevel_of_not_pending hnp] at hr ⊢
      rcases h.fresh hsw with h' | h' | h'
      · rw [hr] at h'; cases h'
      · rw [hnp] at h'; cases h'
      · exact h'
  refine ⟨⟨?_, ?_, ?_, ?_, ?_, h.on_switched, fun hsw => Or.inr (Or.inr (hfresh hsw))⟩, hreq,
    hpend, hfresh⟩
  · rw [hctl]
    exact h.level.verifyLevel.congr rfl rfl rfl
  · rw [hctl]
    exact StripController.verifyLevel_turnedOn.trans h.turnedOn
  · rw [hctl]
    exact StripController.verifyLevel_onLevel.trans h.onLevel
  · rw [hctl]
    exact StripController.verifyLevel_currentColorHS.trans h.colour
  · rw [hctl]
    exact StripController.verifyLevel_bufferRGB.trans h.buffer

/-- **The simulation, step by step.** -/
theorem Refines.exec (h : Refines w spec switched) (linear : UInt16 → ℚ) (st : StripStep) :
    Refines (w.exec linear st) (spec.exec (temperatureHS linear) st)
      (switched || st.isTurnOnOff) := by
  cases st with
  | call op => exact h.call linear op
  | handler =>
    show Refines _ _ (switched || false)
    rw [Bool.or_false]
    exact h.handler.1

/-- **The simulation, over a whole sequence of steps.** -/
theorem refines_run (n : ℕ) (linear : UInt16 → ℚ) (buffer : Memory UInt8)
    (steps : List StripStep) :
    Refines (steps.foldl (Strip.exec linear) (Strip.init n buffer))
      (steps.foldl (LastWriter.exec (temperatureHS linear)) LastWriter.init)
      (steps.any StripStep.isTurnOnOff) := by
  have h := foldl_simulation
    (R := fun w (p : LastWriter × Bool) => Refines w p.1 p.2)
    (f := Strip.exec linear)
    (g := fun p st => (p.1.exec (temperatureHS linear) st, p.2 || st.isTurnOnOff))
    (fun _ _ st h => h.exec linear st) steps (Strip.init n buffer) (LastWriter.init, false)
    (refines_init buffer)
  have hpair : ∀ (l : List StripStep) (sp : LastWriter) (b : Bool),
      l.foldl (fun (p : LastWriter × Bool) st =>
          (p.1.exec (temperatureHS linear) st, p.2 || st.isTurnOnOff)) (sp, b) =
        (l.foldl (LastWriter.exec (temperatureHS linear)) sp, b || l.any StripStep.isTurnOnOff) := by
    intro l
    induction l with
    | nil => intro sp b; simp
    | cons st l ih => intro sp b; simp [ih, Bool.or_assoc]
  rw [hpair] at h
  simpa using h

/-- At rest, a strip shows what the specification asks for. -/
lemma Refines.currentFrame (h : Refines w spec switched) (hp : w.ctl.levelPending = false) :
    w.ctl.currentFrame = spec.shown n := by
  unfold StripController.currentFrame LastWriter.shown LastWriter.level
  rw [h.level.currentLevel_eq hp, h.turnedOn, h.onLevel, h.buffer, Vector.toList_replicate]

end Simulation

/-- **The strip controller refines the last-writer-wins specification.** After any sequence of
calls and handler iterations that switches the strip at least once and ends with an iteration, the
last frame sent is the one that the specification asks for, nothing is requested, and one more
iteration sends nothing. -/
theorem last_frame_eq_shown {n : ℕ} (linear : UInt16 → ℚ) (buffer : Memory UInt8)
    (steps : List StripStep) (hsw : ∃ b, StripStep.call (.turnOnOff b) ∈ steps) :
    let w := (steps ++ [StripStep.handler]).foldl (Strip.exec linear) (Strip.init n buffer)
    let spec := steps.foldl (LastWriter.exec (temperatureHS linear)) LastWriter.init
    w.sent.head? = some (spec.shown n) ∧ w.ctl.transmitRequest = false ∧
      w.handlerIteration.sent = w.sent := by
  have hany : steps.any StripStep.isTurnOnOff = true := by
    obtain ⟨b, hb⟩ := hsw
    exact List.any_eq_true.2 ⟨_, hb, rfl⟩
  simp only [List.foldl_append, List.foldl_cons, List.foldl_nil]
  obtain ⟨href, hreq, hpend, hfresh⟩ :=
    (refines_run n linear buffer steps).handler
  refine ⟨?_, hreq, ?_⟩
  · have h := hfresh hany
    rw [Strip.Fresh, href.currentFrame hpend] at h
    exact h
  · obtain ⟨-, hsent⟩ := Strip.handlerIteration_eq
      (steps.foldl (Strip.exec linear) (Strip.init n buffer)).handlerIteration
    rw [StripController.verifyLevel_of_not_pending hpend, hreq] at hsent
    exact hsent

/-- A strip of two devices that is switched on, turned green and left to its handler. -/
theorem last_frame_eq_shown_green :
    let steps : List StripStep :=
      [.call (.turnOnOff true), .call (.setSaturation 255), .call (.setHue 85)]
    let w := (steps ++ [StripStep.handler]).foldl (Strip.exec linearExact) (Strip.init 2 fun _ => 0)
    (∃ b, StripStep.call (.turnOnOff b) ∈ steps) ∧
      w.sent.head? = some (frame 100 (List.replicate 2 (convertHStoRGB ⟨85, 255⟩))) ∧
      w.ctl.transmitRequest = false ∧ w.handlerIteration.sent = w.sent :=
  ⟨⟨true, by simp⟩, last_frame_eq_shown linearExact (fun _ => 0)
    [.call (.turnOnOff true), .call (.setSaturation 255), .call (.setHue 85)] ⟨true, by simp⟩⟩

end MatterStrip
