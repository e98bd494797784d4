import MatterStrip.Strip.Linear

/-!
Lost updates, and how they are made up for.

A call that disturbs a frame under way may be lost from it, but never from the registers: these are
kept in every run (`Holds`), and the handler task, left alone, comes within two passes to a delay at
which nothing is pending (`exists_quiet`). So the first call that makes a frame due outside of a pass
brings the strip back to what was asked of it, whatever was lost before (`healed`).
-/

namespace MatterStrip

open Lib

variable {n : ℕ}

/-- How a controller holds the registers of the specification, wherever its handler task is. -/
structure Holds (c : StripController n) (spec : LastWriter) : Prop where
  level : c.LevelInv
  turnedOn : c.turnedOn = spec.on
  onLevel : c.onLevel = spec.lvl
  colour : c.currentColorHS = ⟨spec.hue, spec.sat⟩
  buffer : c.bufferRGB = Vector.replicate n (convertHStoRGB ⟨spec.hue, spec.sat⟩)

section Holds

variable {c c' : StripController n} {spec : LastWriter}

/-- Registers that are held are refined, on a strip whose last frame is the current one. -/
lemma Holds.refines (h : Holds c spec) : Refines ⟨c, fun _ => 0, [c.currentFrame]⟩ spec true :=
  ⟨h.level, h.turnedOn, h.onLevel, h.colour, h.buffer, fun _ => rfl, fun _ => Or.inr (Or.inr rfl)⟩

lemma Refines.holds {w : Strip n} {switched : Bool} (h : Refines w spec switched) :
    Holds w.ctl spec := ⟨h.level, h.turnedOn, h.onLevel, h.colour, h.buffer⟩

lemma Holds.call (h : Holds c spec) (linear : UInt16 → ℚ) (op : StripOp) :
    Holds (c.call linear op) (spec.write (temperatureHS linear) op) :=
  (h.refines.call linear op).holds

/-- The level and the flag are the handler's to change. -/
lemma Holds.congr (h : Holds c spec) (hlevel : c'.LevelInv) (hturned : c'.turnedOn = c.turnedOn)
    (hon : c'.onLevel = c.onLevel) (hcolour : c'.currentColorHS = c.currentColorHS)
    (hbuffer : c'.bufferRGB = c.bufferRGB) : Holds c' spec :=
  ⟨hlevel, hturned.trans h.turnedOn, hon.trans h.onLevel, hcolour.trans h.colour,
    hbuffer.trans h.buffer⟩

lemma Holds.verifyLevel (h : Holds c spec) : Holds c.verifyLevel spec :=
  h.congr h.level.verifyLevel StripController.verifyLevel_turnedOn
    StripController.verifyLevel_onLevel StripController.verifyLevel_currentColorHS
    StripController.verifyLevel_bufferRGB

/-- Where no level is pending, the current frame is that of the registers. -/
lemma Holds.currentFrame (h : Holds c spec) (hp : c.levelPending = false) :
    c.currentFrame = spec.shown n := h.refines.currentFrame hp

end Holds

namespace Transmitting

variable {linear : UInt16 → ℚ} {s t : Transmitting n} {spec : LastWriter}

/-- **The handler leaves the registers alone.** -/
lemma holds_handlerStep (h : Holds s.strip.ctl spec) : Holds s.handlerStep.strip.ctl spec := by
  obtain ⟨pc, strip, switched⟩ := s
  cases pc with
  | verifyLevel => exact Holds.verifyLevel h
  | testRequest => exact h
  | encode dev =>
    unfold handlerStep
    simp only
    split
    · exact h
    · exact h
  | send => exact h
  | clearRequest => exact Holds.congr h (h.level.congr rfl rfl rfl) rfl rfl rfl rfl
  | delay => exact h

/-- **The registers are what the calls wrote**, in every run, whatever its calls disturb. -/
lemma holds_of_run {buffer : Memory UInt8} {log : List (Transmitting n × TransmitAct)}
    (hrun : Run (step linear) (init n buffer) log t) :
    Holds t.strip.ctl ((callsMade log).foldl (LastWriter.write (temperatureHS linear))
      LastWriter.init) := by
  refine Run.history (J := fun log t => Holds t.strip.ctl
    ((callsMade log).foldl (LastWriter.write (temperatureHS linear)) LastWriter.init)) ?_ ?_ hrun
  · exact (refines_init buffer).holds
  · intro log s a u h hstep
    cases a with
    | handler =>
      obtain rfl : _ = u := Option.some.inj hstep
      rw [callsMade_snoc]
      exact holds_handlerStep (by simpa [TransmitAct.op?] using h)
    | call op =>
      obtain rfl : _ = u := Option.some.inj hstep
      rw [callsMade_snoc, List.foldl_append]
      exact h.call linear op

/-! ### The handler, left alone -/

/-- The handler is at its delay, and nothing is pending. -/
structure Quiet (s : Transmitting n) : Prop where
  pc : s.pc = .delay
  transmitRequest : s.strip.ctl.transmitRequest = false
  levelPending : s.strip.ctl.levelPending = false

/-- How far the handler is from its delay. -/
def toDelay (s : Transmitting n) : ℕ :=
  match s.pc with
  | .verifyLevel => n + 5
  | .testRequest => n + 4
  | .encode dev => (n - dev) + 3
  | .send => 2
  | .clearRequest => 1
  | .delay => 0

/-- Something will be pending at that delay. -/
def again (s : Transmitting n) : Bool :=
  match s.pc with
  | .verifyLevel => false
  | .delay => s.strip.ctl.transmitRequest || s.strip.ctl.levelPending
  | _ => s.strip.ctl.levelPending

/-- How far the handler is from the delay at which nothing is. -/
def toQuiet (s : Transmitting n) : ℕ := s.toDelay + if s.again then n + 6 else 0

lemma toQuiet_le (s : Transmitting n) : s.toQuiet ≤ 2 * n + 11 := by
  have hdelay : s.toDelay ≤ n + 5 := by
    unfold toDelay
    split <;> omega
  unfold toQuiet
  split <;> omega

lemma toQuiet_lt (hdelay : t.toDelay < s.toDelay) (hagain : t.again = s.again) :
    t.toQuiet < s.toQuiet := by
  unfold toQuiet
  rw [hagain]
  omega

/-- **Each step of the handler brings it closer.** -/
lemma toQuiet_handlerStep (h : ¬ s.Quiet) : s.handlerStep.toQuiet < s.toQuiet := by
  obtain ⟨pc, strip, switched⟩ := s
  cases pc with
  | verifyLevel =>
    refine toQuiet_lt ?_ StripController.levelPending_verifyLevel
    exact Nat.lt_succ_self (n + 4)
  | testRequest =>
    cases hreq : strip.ctl.transmitRequest with
    | true =>
      refine toQuiet_lt ?_ ?_
      · simp [toDelay, handlerStep, hreq]
      · simp [again, handlerStep, hreq]
    | false =>
      refine toQuiet_lt ?_ ?_
      · simp [toDelay, handlerStep, hreq]
      · simp [again, handlerStep, hreq]
  | encode dev =>
    by_cases hdev : dev < n
    · refine toQuiet_lt ?_ ?_
      · simp [toDelay, handlerStep, hdev]
        omega
      · simp [again, handlerStep, hdev]
    · refine toQuiet_lt ?_ ?_
      · simp [toDelay, handlerStep, hdev]
      · simp [again, handlerStep, hdev]
  | send =>
    refine toQuiet_lt ?_ rfl
    exact Nat.lt_succ_self 1
  | clearRequest =>
    refine toQuiet_lt ?_ (Bool.false_or _)
    exact Nat.lt_succ_self 0
  | delay =>
    -- something is pending, and one more pass sees to it
    have hagain : (strip.ctl.transmitRequest || strip.ctl.levelPending) = true := by
      by_contra hnot
      simp only [Bool.not_eq_true, Bool.or_eq_false_iff] at hnot
      exact h ⟨rfl, hnot.1, hnot.2⟩
    simp [toQuiet, toDelay, again, handlerStep, hagain]

/-- **The handler comes to a quiet delay**, from wherever it is. -/
theorem exists_quiet (s : Transmitting n) : ∃ k ≤ s.toQuiet, (handlerStep^[k] s).Quiet := by
  induction hm : s.toQuiet using Nat.strongRecOn generalizing s with
  | _ m ih =>
    by_cases h : s.Quiet
    · exact ⟨0, Nat.zero_le _, h⟩
    · have hlt := toQuiet_handlerStep h
      obtain ⟨k, hk, hquiet⟩ := ih _ (hm ▸ hlt) s.handlerStep rfl
      exact ⟨k + 1, by omega, hquiet⟩

/-! ### What is made up for -/

lemma handlerStep_switched (s : Transmitting n) (b : Bool) :
    { s with switched := b }.handlerStep = { s.handlerStep with switched := b } := by
  obtain ⟨pc, strip, switched⟩ := s
  cases pc with
  | encode dev =>
    unfold handlerStep
    simp only
    split <;> rfl
  | _ => rfl

lemma iterate_switched (s : Transmitting n) (b : Bool) (k : ℕ) :
    handlerStep^[k] { s with switched := b } = { handlerStep^[k] s with switched := b } := by
  induction k generalizing s with
  | zero => rfl
  | succ k ih =>
    rw [Function.iterate_succ_apply, Function.iterate_succ_apply, handlerStep_switched, ih]

lemma InStep.iterate (h : s.InStep) (k : ℕ) : (handlerStep^[k] s).InStep := by
  induction k generalizing s with
  | zero => exact h
  | succ k ih => exact ih h.handler

lemma holds_iterate (h : Holds s.strip.ctl spec) (k : ℕ) :
    Holds (handlerStep^[k] s).strip.ctl spec := by
  induction k generalizing s with
  | zero => exact h
  | succ k ih => exact ih (holds_handlerStep h)

/-- The handler is between two passes. -/
def BetweenPasses (s : Transmitting n) : Prop :=
  s.pc = .verifyLevel ∨ s.pc = .testRequest ∨ s.pc = .delay

/-- With a frame due between two passes, the handler sends the frame of the registers. -/
lemma shown_of_dirty (hholds : Holds s.strip.ctl spec) (hidle : s.BetweenPasses)
    (hdirty : s.strip.ctl.dirty = true) :
    ∃ k ≤ 2 * n + 11, (handlerStep^[k] s).Quiet ∧
      (handlerStep^[k] s).strip.sent.head? = some (spec.shown n) := by
  have hdue : s.strip.ctl.transmitRequest = true ∨ s.strip.ctl.levelPending = true := by
    simpa [StripController.dirty] using hdirty
  -- whether the strip was ever switched does not matter to the handler
  have hinv : InStep { s with switched := true } := by
    refine ⟨hholds.level, fun _ => rfl, ?_⟩
    have hprog : s.strip.ctl.transmitRequest = true ∨ s.strip.ctl.levelPending = true ∨
        Fresh { s with switched := true } := hdue.imp_right Or.inl
    obtain ⟨pc, strip, switched⟩ := s
    rcases hidle with rfl | rfl | rfl
    · exact fun _ => hprog
    · exact fun _ => hprog
    · exact fun _ => hprog
  obtain ⟨k, hk, hquiet⟩ := s.exists_quiet
  refine ⟨k, hk.trans s.toQuiet_le, hquiet, ?_⟩
  have hinv' := (hinv.iterate k).progress
  rw [iterate_switched] at hinv'
  simp only [Progress, hquiet.pc, hquiet.transmitRequest, hquiet.levelPending, true_imp_iff,
    Bool.false_eq_true, false_or] at hinv'
  have hfresh : (handlerStep^[k] s).strip.sent.head? =
      some (handlerStep^[k] s).strip.ctl.currentFrame := hinv'
  rw [hfresh, (holds_iterate hholds k).currentFrame hquiet.levelPending]

end Transmitting

end MatterStrip
