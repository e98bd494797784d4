import MatterStrip.Strip.LastWriter

/-!
All the frames that the strip ever sends, in order.

The specification of the last frame is extended by one flag, which says that something was written
since the last frame (`LastWriter.frames`). A handler iteration outputs the frame of the registers
if the flag is set, and clears it; every call sets it, but for the one that switches on what is on.
The controller keeps no such flag: it is `transmitRequest` or a level that is still to be verified
(`StripController.dirty`), and the two together are set and cleared as the flag is.
-/

namespace MatterStrip

open Lib

/-! ### The specification -/

namespace LastWriter

/-- A call that writes nothing: it switches on what is on. -/
def idle (spec : LastWriter) : StripOp → Bool
  | .turnOnOff state => state && spec.on
  | .setLevel _ => false
  | .setHue _ => false
  | .setSaturation _ => false
  | .setColorTemperature _ => false

/-- The frames that a sequence of steps asks for, from registers and a flag that says whether a frame
is due. -/
def frames (temperature : UInt16 → HueSat) (n : ℕ) :
    LastWriter → Bool → List StripStep → List (List UInt8)
  | _, _, [] => []
  | spec, due, .call op :: steps =>
    frames temperature n (spec.write temperature op) (due || !spec.idle op) steps
  | spec, due, .handler :: steps =>
    (if due then [spec.shown n] else []) ++ frames temperature n spec false steps

end LastWriter

def StripStep.isCall : StripStep → Bool
  | .call _ => true
  | .handler => false

def StripStep.isHandler : StripStep → Bool
  | .call _ => false
  | .handler => true

/-! ### The flag of the controller -/

/-- A frame is due: one is requested, or the level is still to be verified. -/
def StripController.dirty {n : ℕ} (s : StripController n) : Bool :=
  s.transmitRequest || s.levelPending

section Trace

variable {n : ℕ} {w : Strip n} {spec : LastWriter} {switched : Bool} {linear : UInt16 → ℚ}

lemma StripController.transmitRequest_verifyLevel (s : StripController n) :
    s.verifyLevel.transmitRequest = s.dirty := by
  unfold dirty
  cases hp : s.levelPending with
  | true => rw [verifyLevel_of_pending hp, Bool.or_true]
  | false => rw [verifyLevel_of_not_pending hp, Bool.or_false]

/-- Switching on what is on changes nothing. -/
lemma StripController.turnOnOff_true_of_on {s : StripController n} (h : s.turnedOn = true) :
    s.turnOnOff true = s := by
  obtain ⟨_, _, _, _, _, _, _, _⟩ := s
  obtain rfl : _ = true := h
  rfl

/-- A strip that is off has its level pending once it is switched on. -/
lemma StripController.LevelInv.levelPending_of_off {s : StripController n} (h : s.LevelInv)
    (hoff : s.turnedOn = false) : (s.turnOnOff true).levelPending = true := by
  refine levelPending_iff.2 ⟨rfl, ?_⟩
  show s.currentLevel ≠ s.onLevel
  rw [h.off hoff]
  exact h.onLevel_ne.symm

/-- Every call but that of switching on requests a frame. -/
lemma StripController.transmitRequest_call {s : StripController n} {op : StripOp}
    (hop : op ≠ .turnOnOff true) : (s.call linear op).transmitRequest = true := by
  cases op with
  | turnOnOff state =>
    cases state with
    | true => exact absurd rfl hop
    | false => rfl
  | setLevel v => rfl
  | setHue hue => rfl
  | setSaturation sat => rfl
  | setColorTemperature t => rfl

/-- **A call makes a frame due, unless it writes nothing.** -/
lemma Refines.dirty_call (h : Refines w spec switched) (linear : UInt16 → ℚ) (op : StripOp) :
    (w.call linear op).ctl.dirty = (w.ctl.dirty || !spec.idle op) := by
  by_cases hop : op = .turnOnOff true
  · subst hop
    show (w.ctl.turnOnOff true).dirty = (w.ctl.dirty || !(true && spec.on))
    cases hon : spec.on with
    | true =>
      rw [StripController.turnOnOff_true_of_on (h.turnedOn.trans hon)]
      simp
    | false =>
      have hpend := h.level.levelPending_of_off (h.turnedOn.trans hon)
      simp [StripController.dirty, hpend]
  · have hidle : spec.idle op = false := by
      cases op with
      | turnOnOff state =>
        cases state with
        | true => exact absurd rfl hop
        | false => rfl
      | _ => rfl
    have hreq : (w.ctl.call linear op).transmitRequest = true :=
      StripController.transmitRequest_call hop
    simp [StripController.dirty, Strip.call, hreq, hidle]

/-- An iteration sends the frame of the registers if one is due, and none is due after it. -/
lemma Refines.sent_handler (h : Refines w spec switched) :
    w.handlerIteration.sent = (if w.ctl.dirty then [spec.shown n] else []) ++ w.sent ∧
      w.handlerIteration.ctl.dirty = false := by
  obtain ⟨href, hreq, hpend, -⟩ := h.handler
  obtain ⟨hctl, hsent⟩ := w.handlerIteration_eq
  have hframe : w.ctl.verifyLevel.currentFrame = spec.shown n := by
    rw [← href.currentFrame hpend, hctl]
    rfl
  constructor
  · rw [hsent, StripController.transmitRequest_verifyLevel, hframe]
    split <;> rfl
  · simp [StripController.dirty, hreq, hpend]

/-- The simulation, with the frames: what the strip sends is what the specification asks for. -/
lemma Refines.sent_foldl (linear : UInt16 → ℚ) (steps : List StripStep)
    (h : Refines w spec switched) :
    (steps.foldl (Strip.exec linear) w).sent.reverse =
      w.sent.reverse ++ spec.frames (temperatureHS linear) n w.ctl.dirty steps := by
  induction steps generalizing w spec switched with
  | nil => simp [LastWriter.frames]
  | cons st steps ih =>
    rw [List.foldl_cons]
    cases st with
    | call op =>
      have hih := ih (h.call linear op)
      rw [h.dirty_call linear op] at hih
      exact hih
    | handler =>
      obtain ⟨hsent, hdirty⟩ := h.sent_handler
      have hih := ih h.handler.1
      rw [hdirty, hsent] at hih
      show (steps.foldl (Strip.exec linear) w.handlerIteration).sent.reverse = _
      rw [hih, LastWriter.frames]
      cases w.ctl.dirty <;> simp

/-- **Every frame is the specification's.** Over any sequence of calls and handler iterations, the
frames sent are those that the specification asks for, one for one and in order. -/
theorem sent_eq_frames (linear : UInt16 → ℚ) (n : ℕ) (buffer : Memory UInt8)
    (steps : List StripStep) :
    (steps.foldl (Strip.exec linear) (Strip.init n buffer)).sent.reverse =
      LastWriter.init.frames (temperatureHS linear) n false steps :=
  (refines_init buffer).sent_foldl linear steps

/-! ### How many frames -/

/-- One frame for each call at most, and the one that is due. -/
lemma LastWriter.length_frames_le_calls (temperature : UInt16 → HueSat) (n : ℕ) (spec : LastWriter)
    (due : Bool) (steps : List StripStep) :
    (spec.frames temperature n due steps).length ≤
      steps.countP StripStep.isCall + due.toNat := by
  induction steps generalizing spec due with
  | nil => simp [frames]
  | cons st steps ih =>
    cases st with
    | call op =>
      have hih := ih (spec.write temperature op) (due || !spec.idle op)
      have hdue := (due || !spec.idle op).toNat_le
      rw [frames, List.countP_cons_of_pos rfl]
      omega
    | handler =>
      have hih := ih spec false
      rw [frames, List.countP_cons_of_neg (by simp [StripStep.isCall]), List.length_append]
      have hone : (if due then [spec.shown n] else []).length ≤ due.toNat := by cases due <;> simp
      have hnone : (false : Bool).toNat = 0 := rfl
      omega

/-- One frame for each iteration at most. -/
lemma LastWriter.length_frames_le_handlers (temperature : UInt16 → HueSat) (n : ℕ)
    (spec : LastWriter) (due : Bool) (steps : List StripStep) :
    (spec.frames temperature n due steps).length ≤ steps.countP StripStep.isHandler := by
  induction steps generalizing spec due with
  | nil => simp [frames]
  | cons st steps ih =>
    cases st with
    | call op =>
      rw [frames, List.countP_cons_of_neg (by simp [StripStep.isHandler])]
      exact ih _ _
    | handler =>
      have hih := ih spec false
      rw [frames, List.countP_cons_of_pos rfl, List.length_append]
      have hone : (if due then [spec.shown n] else []).length ≤ 1 := by split <;> simp
      omega

/-- **No frame without a call.** The strip sends no more frames than calls are made, and no more than
its handler has iterations: calls between two iterations share a frame. -/
theorem sent_le_calls (linear : UInt16 → ℚ) (n : ℕ) (buffer : Memory UInt8)
    (steps : List StripStep) :
    let sent := (steps.foldl (Strip.exec linear) (Strip.init n buffer)).sent
    sent.length ≤ steps.countP StripStep.isCall ∧
      sent.length ≤ steps.countP StripStep.isHandler := by
  intro sent
  have hsent : sent.length =
      (LastWriter.init.frames (temperatureHS linear) n false steps).length := by
    have heq : sent.reverse = LastWriter.init.frames (temperatureHS linear) n false steps :=
      (refines_init buffer).sent_foldl linear steps
    rw [← heq, List.length_reverse]
  rw [hsent]
  exact ⟨LastWriter.length_frames_le_calls _ _ _ _ _, LastWriter.length_frames_le_handlers _ _ _ _ _⟩

end Trace

end MatterStrip
