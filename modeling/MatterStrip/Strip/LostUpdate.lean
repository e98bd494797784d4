import MatterStrip.Lib.Run
import MatterStrip.Strip.Controller

/-!
The handler task, preempted: the frame is encoded device by device, handed to the SPI driver, and
only then is the request for it cleared.

A call that falls between the encoding of a device and `transmitRequest = false` sets a flag that
is about to be cleared, and the devices encoded before it keep their old pulses. The condition on a
call (`Undisturbed`) is that it leaves the pulses of the devices already encoded as they are. The
invariant of the runs that meet it (`InStep`) says at every place of the handler what the buffer
holds and what is pending; a call that breaks the condition leaves a stale part behind (`Stale`)
that the handler, left alone, carries to its delay.
-/

namespace MatterStrip

open Lib

/-- Where the handler task is: before the step that is named. -/
inductive TransmitPc
  /-- `verifyLevel()` -/
  | verifyLevel
  /-- `if(stripController.transmitRequest)` -/
  | testRequest
  /-- the loop of `dataTransmit`, at device `dev` -/
  | encode (dev : ℕ)
  /-- `SPIDRV_MTransmit` -/
  | send
  /-- `transmitRequest = false` -/
  | clearRequest
  /-- `osDelay(SC_LOOP_PERIOD)` -/
  | delay
  deriving DecidableEq, Repr

inductive TransmitAct
  | handler
  | call (op : StripOp)
  deriving DecidableEq, Repr

/-- The strip and the place of the handler task. `switched` records that `turnOnOff` has been
called; the code keeps no such flag. -/
structure Transmitting (n : ℕ) where
  pc : TransmitPc
  strip : Strip n
  switched : Bool

/-- The bytes of the current frame for its first `k` devices. -/
def StripController.part {n : ℕ} (s : StripController n) (k : ℕ) : List UInt8 :=
  frame s.currentLevel (s.bufferRGB.toList.take k)

namespace Transmitting

variable {n : ℕ}

def init (n : ℕ) (buffer : Memory UInt8) : Transmitting n :=
  ⟨.verifyLevel, Strip.init n buffer, false⟩

def handlerStep (s : Transmitting n) : Transmitting n :=
  match s.pc with
  | .verifyLevel =>
    { s with pc := .testRequest, strip := { s.strip with ctl := s.strip.ctl.verifyLevel } }
  | .testRequest => { s with pc := if s.strip.ctl.transmitRequest then .encode 0 else .delay }
  | .encode dev =>
    if h : dev < n then
      { s with
        pc := .encode (dev + 1)
        strip := { s.strip with
          buffer := applyStores s.strip.buffer (RGBToPulses (0 + dev * ws2812DevSize)
            s.strip.ctl.bufferRGB[dev] s.strip.ctl.currentLevel) } }
    else { s with pc := .send }
  | .send => { s with pc := .clearRequest, strip := s.strip.send }
  | .clearRequest =>
    { s with
      pc := .delay
      strip := { s.strip with ctl := { s.strip.ctl with transmitRequest := false } } }
  | .delay => { s with pc := .verifyLevel }

def isSwitch : StripOp → Bool
  | .turnOnOff _ => true
  | _ => false

def step (linear : UInt16 → ℚ) (s : Transmitting n) : TransmitAct → Option (Transmitting n)
  | .handler => some s.handlerStep
  | .call op => some
      { s with strip := s.strip.call linear op, switched := s.switched || isSwitch op }

/-- The last frame is the frame that the controller would build now. -/
def Fresh (s : Transmitting n) : Prop := s.strip.sent.head? = some s.strip.ctl.currentFrame

instance (s : Transmitting n) : Decidable s.Fresh := by unfold Fresh; infer_instance

/-- What is asked of the handler at its delay: where nothing is pending, the frame is fresh. -/
def FreshAtDelay (s : Transmitting n) : Prop :=
  s.pc = .delay → s.switched = true → s.strip.ctl.transmitRequest = false →
    s.strip.ctl.levelPending = false → s.Fresh

/-- How many devices of the frame under way have been encoded. -/
def encoded (s : Transmitting n) : ℕ :=
  match s.pc with
  | .encode dev => dev
  | .send => n
  | .clearRequest => n
  | _ => 0

/-- The condition on a step: a call leaves the pulses of the devices already encoded as they are. -/
def Undisturbed (linear : UInt16 → ℚ) (s : Transmitting n) (a : TransmitAct) : Prop :=
  ∀ op, a = .call op →
    (s.strip.ctl.call linear op).part s.encoded = s.strip.ctl.part s.encoded

end Transmitting

/-! ### The parts of a frame -/

section Part

variable {n : ℕ} {linear : UInt16 → ℚ} {s : StripController n}

lemma StripController.part_all : s.part n = s.currentFrame := by
  unfold part currentFrame
  rw [List.take_of_length_le (by rw [Vector.length_toList])]

@[simp] lemma StripController.part_zero : s.part 0 = [] := rfl

lemma StripController.length_part {k : ℕ} (hk : k ≤ n) : (s.part k).length = 9 * k := by
  unfold part
  rw [length_frame, List.length_take, Vector.length_toList, Nat.min_eq_left hk]

lemma StripController.part_succ {k : ℕ} (hk : k < n) :
    s.part (k + 1) = s.part k ++ (s.bufferRGB[k].atLevel s.currentLevel).pulses := by
  unfold part frame
  rw [List.take_add_one, List.flatMap_append]
  simp [hk]

/-- A shorter part is the beginning of a longer one. -/
lemma StripController.take_part {j k : ℕ} (hjk : j ≤ k) (hk : k ≤ n) :
    (s.part k).take (9 * j) = s.part j := by
  have hsplit : s.bufferRGB.toList.take k =
      s.bufferRGB.toList.take j ++ (s.bufferRGB.toList.take k).drop j := by
    conv_lhs => rw [← List.take_append_drop j (s.bufferRGB.toList.take k)]
    rw [List.take_take, Nat.min_eq_left hjk]
  have hpart : s.part k = s.part j ++ frame s.currentLevel ((s.bufferRGB.toList.take k).drop j) := by
    unfold part
    conv_lhs => rw [hsplit]
    exact List.flatMap_append
  rw [hpart, List.take_left' (length_part (by omega))]

/-- At level 0 only the number of devices shows. -/
lemma frame_zero (l : List RGB) :
    frame 0 l = (List.replicate l.length (⟨0, 0, 0⟩ : RGB).pulses).flatten := by
  unfold frame
  simp only [RGB.atLevel_zero]
  induction l with
  | nil => rfl
  | cons c l ih => rw [List.flatMap_cons, ih, List.length_cons, List.replicate_succ,
      List.flatten_cons]

lemma StripController.part_of_dark {t : StripController n} (hs : s.currentLevel = 0)
    (ht : t.currentLevel = 0) (k : ℕ) : s.part k = t.part k := by
  unfold part
  rw [hs, ht, frame_zero, frame_zero, List.length_take, List.length_take, Vector.length_toList,
    Vector.length_toList]

/-- **A call that changes a part of the frame leaves no level pending**, and the strip has been
switched on, or is switched off by the call. -/
lemma StripController.LevelInv.of_part_ne (h : s.LevelInv) {op : StripOp} {k : ℕ}
    (hne : (s.call linear op).part k ≠ s.part k) :
    (s.call linear op).levelPending = false ∧
      (s.turnedOn = true ∨ Transmitting.isSwitch op = true) := by
  have hcolour : ∀ t : StripController n, t.onLevel = s.onLevel → t.turnedOn = s.turnedOn →
      t.currentLevel = s.currentLevel → t.part k ≠ s.part k →
      t.levelPending = false ∧ s.turnedOn = true := by
    intro t hon hturned hcur hne
    have hlit : s.currentLevel ≠ 0 := fun h0 => hne (part_of_dark (hcur.trans h0) h0 k)
    have hlevel : s.currentLevel = s.onLevel := h.level.resolve_left hlit
    constructor
    · simp [levelPending, hon, hcur, hlevel]
    · by_contra hoff
      have hoff' : s.turnedOn = false := by simpa using hoff
      exact hlit (h.off hoff')
  cases op with
  | turnOnOff state =>
    cases state with
    | true => exact absurd rfl hne
    | false => exact ⟨rfl, Or.inr rfl⟩
  | setLevel newLevel =>
    have hcur := setLevel_currentLevel (s := s) newLevel
    have hturned := setLevel_turnedOn (s := s) newLevel
    have hon : s.turnedOn = true := by
      by_contra hoff
      have hoff' : s.turnedOn = false := by simpa using hoff
      rw [hoff'] at hcur
      exact hne (part_of_dark hcur (h.off hoff') k)
    refine ⟨?_, Or.inl hon⟩
    rw [hon] at hcur
    show (s.setLevel newLevel).levelPending = false
    simp [levelPending, hcur]
  | setHue hue => exact (hcolour (s.setHue hue) rfl rfl rfl hne).imp_right Or.inl
  | setSaturation saturation =>
    exact (hcolour (s.setSaturation saturation) rfl rfl rfl hne).imp_right Or.inl
  | setColorTemperature t =>
    exact (hcolour (s.setColorTemperature linear t) rfl rfl rfl hne).imp_right Or.inl

end Part

namespace Transmitting

variable {n : ℕ} {linear : UInt16 → ℚ} {s t u : Transmitting n} {a : TransmitAct}

/-! ### The invariant of undisturbed runs -/

/-- What the place of the handler says about the frame: in the loop the devices before `dev` are
encoded, after it the whole frame is, and once it is handed over it is the last frame; elsewhere a
frame that is not fresh is pending. -/
def Progress (s : Transmitting n) : Prop :=
  match s.pc with
  | .encode dev => dev ≤ n ∧ read s.strip.buffer 0 (9 * dev) = s.strip.ctl.part dev
  | .send => read s.strip.buffer 0 (9 * n) = s.strip.ctl.part n
  | .clearRequest => s.Fresh
  | _ => s.switched = true →
    s.strip.ctl.transmitRequest = true ∨ s.strip.ctl.levelPending = true ∨ s.Fresh

/-- What holds in every state, as long as no call disturbs a frame under way. -/
structure InStep (s : Transmitting n) : Prop where
  level : s.strip.ctl.LevelInv
  /-- a strip that is on has been switched on -/
  on_switched : s.strip.ctl.turnedOn = true → s.switched = true
  progress : s.Progress

theorem inStep_init (buffer : Memory UInt8) : (init n buffer).InStep := by
  constructor
  · exact StripController.levelInv_init
  · intro hon
    cases hon
  · intro hsw
    cases hsw

/-- Encoding a device leaves the part before it as it is. -/
lemma read_encode (s : Transmitting n) {j dev : ℕ} (hj : j ≤ dev) (hdev : dev < n) :
    read (applyStores s.strip.buffer (RGBToPulses (0 + dev * ws2812DevSize)
      s.strip.ctl.bufferRGB[dev] s.strip.ctl.currentLevel)) 0 (9 * j) =
      read s.strip.buffer 0 (9 * j) := by
  rw [RGBToPulses_eq_block]
  refine read_applyStores_block_of_disjoint _ (Or.inl ?_)
  rw [ws2812DevSize]
  omega

/-- Encoding a device adds it to the part that is encoded. -/
lemma read_encode_succ (s : Transmitting n) {dev : ℕ} (hdev : dev < n)
    (hread : read s.strip.buffer 0 (9 * dev) = s.strip.ctl.part dev) :
    read (applyStores s.strip.buffer (RGBToPulses (0 + dev * ws2812DevSize)
      s.strip.ctl.bufferRGB[dev] s.strip.ctl.currentLevel)) 0 (9 * (dev + 1)) =
      s.strip.ctl.part (dev + 1) := by
  have haddr : 0 + dev * ws2812DevSize = 0 + 9 * dev := by rw [ws2812DevSize]; ring
  rw [Nat.mul_succ, read_add, read_encode s (le_refl dev) hdev, hread,
    StripController.part_succ hdev, RGBToPulses_eq_block, haddr]
  congr 1
  exact read_applyStores_block _ _ (RGB.pulses _)

lemma InStep.handler (h : s.InStep) : s.handlerStep.InStep := by
  obtain ⟨hlevel, hon, hprog⟩ := h
  unfold handlerStep
  split <;> rename_i hpc <;> simp only [Progress, hpc] at hprog
  · constructor
    · exact hlevel.verifyLevel
    · intro hon'
      exact hon (StripController.verifyLevel_turnedOn.symm.trans hon')
    · intro hsw
      cases hp : s.strip.ctl.levelPending with
      | true =>
        left
        rw [StripController.verifyLevel_of_pending hp]
      | false =>
        have hsame := StripController.verifyLevel_of_not_pending hp
        simp only [Fresh, hsame]
        exact hprog hsw
  · cases s.strip.ctl.transmitRequest with
    | true => exact ⟨hlevel, hon, Nat.zero_le _, rfl⟩
    | false => exact ⟨hlevel, hon, hprog⟩
  · split
    · rename_i hdev
      exact ⟨hlevel, hon, hdev, read_encode_succ s hdev hprog.2⟩
    · rename_i dev hdev
      obtain rfl : dev = n := by omega
      exact ⟨hlevel, hon, hprog.2⟩
  · exact ⟨hlevel, hon, congrArg some (hprog.trans StripController.part_all)⟩
  · exact ⟨hlevel.congr rfl rfl rfl, hon, fun _ => Or.inr (Or.inr hprog)⟩
  · exact ⟨hlevel, hon, hprog⟩

lemma turnedOn_call {ctl : StripController n} {op : StripOp}
    (h : (ctl.call linear op).turnedOn = true) : ctl.turnedOn = true ∨ isSwitch op = true := by
  cases op with
  | turnOnOff state => exact Or.inr rfl
  | setLevel newLevel => exact Or.inl ((StripController.setLevel_turnedOn newLevel).symm.trans h)
  | setHue hue => exact Or.inl h
  | setSaturation saturation => exact Or.inl h
  | setColorTemperature t => exact Or.inl h

lemma InStep.call (h : s.InStep) {op : StripOp} (hok : Undisturbed linear s (.call op))
    (hstep : step linear s (.call op) = some t) : t.InStep := by
  obtain ⟨hlevel, hon, hprog⟩ := h
  obtain rfl : _ = t := Option.some.inj hstep
  have hpart := hok op rfl
  have hswitched : (s.strip.ctl.call linear op).turnedOn = true →
      (s.switched || isSwitch op) = true := by
    intro hon'
    rcases turnedOn_call hon' with h | h
    · rw [hon h]; rfl
    · rw [h, Bool.or_true]
  -- outside the loop, a call leaves the frame stale only with something pending
  have hidle : (s.switched = true → s.strip.ctl.transmitRequest = true ∨
        s.strip.ctl.levelPending = true ∨ s.Fresh) →
      (s.strip.ctl.call linear op).transmitRequest = true ∨
        (s.strip.ctl.call linear op).levelPending = true ∨
        s.strip.sent.head? = some (s.strip.ctl.call linear op).currentFrame := by
    intro hprog
    rcases hlevel.call_pending linear op with h | h | ⟨hsame, hon'⟩
    · exact Or.inl h
    · exact Or.inr (Or.inl h)
    · rw [hsame]
      exact hprog (hon hon')
  refine ⟨hlevel.call linear op, hswitched, ?_⟩
  obtain ⟨pc, strip, switched⟩ := s
  cases pc with
  | verifyLevel => exact fun _ => hidle hprog
  | testRequest => exact fun _ => hidle hprog
  | encode dev => exact ⟨hprog.1, hprog.2.trans hpart.symm⟩
  | send => exact Eq.trans hprog hpart.symm
  | clearRequest =>
    have hframe : strip.ctl.currentFrame = (strip.ctl.call linear op).currentFrame := by
      rw [← StripController.part_all, ← StripController.part_all]
      exact hpart.symm
    exact Eq.trans hprog (congrArg some hframe)
  | delay => exact fun _ => hidle hprog

/-! ### What a disturbed frame leads to -/

/-- The part of the frame that is encoded, or the frame that was sent, is not what the controller
would build now. -/
def Stale (s : Transmitting n) : Prop :=
  match s.pc with
  | .encode dev => dev ≤ n ∧ ∃ j ≤ dev, read s.strip.buffer 0 (9 * j) ≠ s.strip.ctl.part j
  | .send => ∃ j ≤ n, read s.strip.buffer 0 (9 * j) ≠ s.strip.ctl.part j
  | .clearRequest => ¬ s.Fresh
  | .delay => s.strip.ctl.transmitRequest = false ∧ ¬ s.Fresh
  | _ => False

/-- The handler is on its way to a delay at which the last frame is not the current one. -/
structure Doomed (s : Transmitting n) : Prop where
  switched : s.switched = true
  level : s.strip.ctl.levelPending = false
  stale : s.Stale

/-- How many steps the handler is away from its delay. -/
def remaining (s : Transmitting n) : ℕ :=
  match s.pc with
  | .encode dev => (n - dev) + 3
  | .send => 2
  | .clearRequest => 1
  | _ => 0

lemma Doomed.handler (h : s.Doomed) (hpc : s.pc ≠ .delay) :
    s.handlerStep.Doomed ∧ s.handlerStep.remaining < s.remaining := by
  obtain ⟨hsw, hlevel, hstale⟩ := h
  obtain ⟨pc, strip, switched⟩ := s
  cases pc with
  | verifyLevel => exact absurd hstale (by simp [Stale])
  | testRequest => exact absurd hstale (by simp [Stale])
  | encode dev =>
    obtain ⟨hle, j, hj, hne⟩ := hstale
    by_cases hdev : dev < n
    · simp only [handlerStep, dif_pos hdev]
      have hsame := read_encode ⟨.encode dev, strip, switched⟩ hj hdev
      have hstale : Stale ⟨.encode (dev + 1), { strip with
          buffer := applyStores strip.buffer (RGBToPulses (0 + dev * ws2812DevSize)
            strip.ctl.bufferRGB[dev] strip.ctl.currentLevel) }, switched⟩ := by
        refine ⟨hdev, j, by omega, ?_⟩
        intro heq
        exact hne (hsame.symm.trans heq)
      constructor
      · exact ⟨hsw, hlevel, hstale⟩
      · simp only [remaining]
        omega
    · simp only [handlerStep, dif_neg hdev]
      have hstale : Stale ⟨.send, strip, switched⟩ := ⟨j, by omega, hne⟩
      constructor
      · exact ⟨hsw, hlevel, hstale⟩
      · simp only [remaining]
        omega
  | send =>
    obtain ⟨j, hj, hne⟩ := hstale
    refine ⟨⟨hsw, hlevel, ?_⟩, by simp [handlerStep, remaining]⟩
    intro hfresh
    have hframe : read strip.buffer 0 (9 * n) = strip.ctl.part n :=
      (Option.some.inj hfresh).trans StripController.part_all.symm
    have hsplit : 9 * n = 9 * j + 9 * (n - j) := by omega
    have htake : (read strip.buffer 0 (9 * n)).take (9 * j) = read strip.buffer 0 (9 * j) := by
      rw [hsplit, read_add, List.take_left' (length_read _ _ _)]
    apply hne
    rw [← htake, hframe, StripController.take_part hj (le_refl n)]
  | clearRequest =>
    exact ⟨⟨hsw, hlevel, rfl, hstale⟩, by simp [handlerStep, remaining]⟩
  | delay => exact absurd rfl hpc

/-- Left alone, the handler carries a stale frame to its delay. -/
lemma Doomed.reaches_delay (h : s.Doomed) :
    ∃ log v, Run (step linear) s log v ∧ (∀ p ∈ log, p.2 = .handler) ∧ ¬ v.FreshAtDelay := by
  have hstep : ∀ s : Transmitting n, s.Doomed → s.pc ≠ .delay → ∃ a t, a = .handler ∧
      step linear s a = some t ∧ t.Doomed ∧ t.remaining < s.remaining := by
    intro s hs hpc
    exact ⟨.handler, s.handlerStep, rfl, rfl, hs.handler hpc⟩
  obtain ⟨log, v, hrun, hlog, hv, hpc⟩ := exists_run_of_descent
    (fun a : TransmitAct => a = .handler) (fun s : Transmitting n => s.pc = .delay) remaining hstep h
  refine ⟨log, v, hrun, hlog, ?_⟩
  intro hfresh
  have hstale := hv.stale
  simp only [Stale, hpc] at hstale
  exact hstale.2 (hfresh hpc hv.switched hstale.1 hv.level)

/-- A call that disturbs a frame under way dooms the next delay. -/
lemma InStep.doomed (h : s.InStep) (hbad : ¬ Undisturbed linear s a)
    (hstep : step linear s a = some t) : t.Doomed := by
  simp only [Undisturbed, not_forall] at hbad
  obtain ⟨op, rfl, hne⟩ := hbad
  obtain rfl : _ = t := Option.some.inj hstep
  obtain ⟨hlevel, hon⟩ := h.level.of_part_ne hne
  have hswitched : (s.switched || isSwitch op) = true := by
    rcases hon with hon | hsw
    · rw [h.on_switched hon]; rfl
    · rw [hsw, Bool.or_true]
  refine ⟨hswitched, hlevel, ?_⟩
  have hprog := h.progress
  obtain ⟨pc, strip, switched⟩ := s
  cases pc with
  | encode dev =>
    refine ⟨hprog.1, dev, le_refl _, ?_⟩
    intro heq
    exact hne (heq.symm.trans hprog.2)
  | send =>
    refine ⟨n, le_refl _, ?_⟩
    intro heq
    exact hne (heq.symm.trans hprog)
  | clearRequest =>
    intro hfresh
    have hframe := Option.some.inj ((Eq.symm hprog).trans hfresh)
    rw [← StripController.part_all, ← StripController.part_all] at hframe
    exact hne hframe.symm
  | verifyLevel => exact absurd (by simp [encoded]) hne
  | testRequest => exact absurd (by simp [encoded]) hne
  | delay => exact absurd (by simp [encoded]) hne

/-- The strip turned green by `setHue` while the request for its last frame is being cleared. -/
theorem stale_after_setHue :
    ∃ log t, Run (step linearExact) (init 1 fun _ => 0) log t ∧
      log.map Prod.snd = [.call (.turnOnOff true), .call (.setSaturation 255), .handler, .handler,
        .handler, .handler, .handler, .call (.setHue 85), .handler] ∧
      t.pc = .delay ∧ t.switched = true ∧ t.strip.ctl.transmitRequest = false ∧
      t.strip.ctl.levelPending = false ∧ ¬ t.Fresh := by
  obtain ⟨log, hrun, hlog⟩ := exists_run_of_exec (step linearExact)
    (init 1 fun _ => 0) [.call (.turnOnOff true), .call (.setSaturation 255), .handler,
      .handler, .handler, .handler, .handler, .call (.setHue 85), .handler] rfl
  exact ⟨log, _, hrun, hlog, rfl, rfl, rfl, rfl, by decide +kernel⟩

/-- **When no update is lost.** In a run whose calls all leave the pulses of the devices already
encoded as they are, the last frame is the current one at every delay at which nothing is pending;
and the first call that does not leads to a delay at which it is not, if the handler is left
alone. -/
theorem fresh_while_undisturbed (linear : UInt16 → ℚ) (buffer : Memory UInt8) :
    (∀ log t, Run (step linear) (init n buffer) log t → Meets (Undisturbed linear) log →
      Always FreshAtDelay log t) ∧
    ∀ log t a u, Run (step linear) (init n buffer) log t → Meets (Undisturbed linear) log →
      ¬ Undisturbed linear t a → step linear t a = some u →
      ∃ log' v, Run (step linear) u log' v ∧ (∀ p ∈ log', p.2 = .handler) ∧ ¬ v.FreshAtDelay := by
  have hstep : ∀ (s : Transmitting n) a t, s.InStep → Undisturbed linear s a →
      step linear s a = some t → t.InStep := by
    intro s a t h hok hstep
    cases a with
    | handler =>
      obtain rfl : _ = t := Option.some.inj hstep
      exact h.handler
    | call op => exact h.call hok hstep
  have hinv : ∀ log t, Run (step linear) (init n buffer) log t → Meets (Undisturbed linear) log →
      Always InStep log t := fun log t hrun hok => hrun.guarded (inStep_init buffer) hstep hok
  constructor
  · intro log t hrun hok
    refine (hinv log t hrun hok).imp ?_
    intro s h hpc hsw hreq hpend
    have hprog := h.progress
    simp only [Progress, hpc] at hprog
    rcases hprog hsw with h | h | h
    · rw [hreq] at h; cases h
    · rw [hpend] at h; cases h
    · exact h
  · intro log t a u hrun hok hbad hu
    exact ((hinv log t hrun hok).2.doomed hbad hu).reaches_delay

end Transmitting

end MatterStrip
