import MatterStrip.Strip.Frame

/-!
`StripController` and the task that drives it.

The other tasks call `turnOnOff`, `setLevel`, `setHue`, `setSaturation` and `setColorTemperature`
(`StripOp`); the handler task verifies the level and sends a frame when one is requested
(`Strip.handlerIteration`). The floating-point expression of `setColorTemperature` is a parameter
`linear`. The GPIO pin that `turnOnOff` switches and the log messages are left out.
-/

namespace MatterStrip

open Lib

inductive ColorMode
  | fixedColor
  deriving DecidableEq, Repr

/-- `WS2812_START_LEVEL`, level when the strip is turned on -/
def ws2812StartLevel : UInt8 := 100

def rgbWhite : RGB := ⟨0x7F, 0x7F, 0x7F⟩

/-- `StripController`, for a strip of `n` devices -/
structure StripController (n : ℕ) where
  transmitRequest : Bool
  currentLevel : UInt8
  /-- level when the strip is turned on -/
  onLevel : UInt8
  turnedOn : Bool
  bufferRGB : Vector RGB n
  colorMode : ColorMode
  currentColorRGB : RGB
  currentColorHS : HueSat
  deriving DecidableEq

namespace StripController

variable {n : ℕ} (linear : UInt16 → ℚ) (s : StripController n)

def init (n : ℕ) : StripController n where
  transmitRequest := false
  currentLevel := 0
  onLevel := ws2812StartLevel
  turnedOn := false
  bufferRGB := Vector.replicate n rgbWhite
  colorMode := .fixedColor
  currentColorRGB := rgbWhite
  currentColorHS := ⟨0, 0⟩

def turnOnOff (state : Bool) : StripController n :=
  if state = true then { s with turnedOn := state }
  else { s with turnedOn := state, currentLevel := 0, transmitRequest := true }

def setLevel (newLevel : UInt8) : StripController n :=
  let s := if newLevel > 0 then { s with onLevel := newLevel } else s
  { s with currentLevel := if s.turnedOn then s.onLevel else 0, transmitRequest := true }

def setFixedColor : StripController n :=
  let currentColorRGB := convertHStoRGB s.currentColorHS
  { s with
    colorMode := .fixedColor
    currentColorRGB := currentColorRGB
    bufferRGB := Vector.replicate n currentColorRGB
    transmitRequest := true }

def setHue (hue : UInt8) : StripController n :=
  { s with currentColorHS := { s.currentColorHS with hue := hue } }.setFixedColor

def setSaturation (saturation : UInt8) : StripController n :=
  { s with currentColorHS := { s.currentColorHS with saturation := saturation } }.setFixedColor

def setColorTemperature (colorTemperature : UInt16) : StripController n :=
  { s with currentColorHS := temperatureHS linear colorTemperature }.setFixedColor

/-- The condition of `verifyLevel`: the strip is on and not yet at its level. -/
def levelPending : Bool := s.turnedOn && s.currentLevel != s.onLevel

def verifyLevel : StripController n :=
  if s.levelPending then { s with currentLevel := s.onLevel, transmitRequest := true } else s

/-- The frame that `dataTransmit` builds. -/
def currentFrame : List UInt8 := frame s.currentLevel s.bufferRGB.toList

end StripController

/-- The calls that other tasks make. -/
inductive StripOp
  | turnOnOff (state : Bool)
  | setLevel (newLevel : UInt8)
  | setHue (hue : UInt8)
  | setSaturation (saturation : UInt8)
  | setColorTemperature (colorTemperature : UInt16)
  deriving DecidableEq, Repr

/-- One call of another task, as a whole. -/
def StripController.call {n : ℕ} (linear : UInt16 → ℚ) (s : StripController n) :
    StripOp → StripController n
  | .turnOnOff state => s.turnOnOff state
  | .setLevel newLevel => s.setLevel newLevel
  | .setHue hue => s.setHue hue
  | .setSaturation saturation => s.setSaturation saturation
  | .setColorTemperature t => s.setColorTemperature linear t

/-- The strip: its controller, the memory that holds `WS2812_buffer` from address 0 on, and the
frames handed to the SPI driver, the last one first. -/
structure Strip (n : ℕ) where
  ctl : StripController n
  buffer : Memory UInt8
  sent : List (List UInt8)

namespace Strip

variable {n : ℕ} (linear : UInt16 → ℚ) (w : Strip n)

/-- The strip after its constructor, with any content of the static buffer. -/
def init (n : ℕ) (buffer : Memory UInt8) : Strip n := ⟨StripController.init n, buffer, []⟩

/-- `SPIDRV_MTransmit` of the whole buffer -/
def send : Strip n := { w with sent := read w.buffer 0 (ws2812DevSize * n) :: w.sent }

def dataTransmit : Strip n :=
  { w with
    buffer := applyStores w.buffer
      (encodeLoop 0 ws2812DevSize w.ctl.currentLevel w.ctl.bufferRGB) }.send

/-- One turn of the loop of `stripControllerHandler`, up to its delay. -/
def handlerIteration : Strip n :=
  let w := { w with ctl := w.ctl.verifyLevel }
  if w.ctl.transmitRequest then
    let w := w.dataTransmit
    { w with ctl := { w.ctl with transmitRequest := false } }
  else w

def call (op : StripOp) : Strip n := { w with ctl := w.ctl.call linear op }

/-- **`dataTransmit` sends the current frame**, whatever the buffer held. -/
theorem dataTransmit_sent : w.dataTransmit.sent = w.ctl.currentFrame :: w.sent := by
  unfold dataTransmit send
  rw [read_encodeLoop]
  rfl

end Strip

/-! ### What the calls do to the level -/

namespace StripController

variable {n : ℕ} {s : StripController n}

lemma turnOnOff_turnedOn (state : Bool) : (s.turnOnOff state).turnedOn = state := by
  cases state <;> rfl

lemma levelPending_iff : s.levelPending = true ↔ s.turnedOn = true ∧ s.currentLevel ≠ s.onLevel := by
  simp [levelPending]

@[simp] lemma verifyLevel_turnedOn : s.verifyLevel.turnedOn = s.turnedOn := by
  unfold verifyLevel; split <;> rfl

@[simp] lemma verifyLevel_onLevel : s.verifyLevel.onLevel = s.onLevel := by
  unfold verifyLevel; split <;> rfl

@[simp] lemma verifyLevel_bufferRGB : s.verifyLevel.bufferRGB = s.bufferRGB := by
  unfold verifyLevel; split <;> rfl

@[simp] lemma verifyLevel_currentColorHS :
    s.verifyLevel.currentColorHS = s.currentColorHS := by unfold verifyLevel; split <;> rfl

lemma verifyLevel_of_not_pending (h : s.levelPending = false) : s.verifyLevel = s := by
  simp [verifyLevel, h]

lemma verifyLevel_of_pending (h : s.levelPending = true) :
    s.verifyLevel = { s with currentLevel := s.onLevel, transmitRequest := true } := by
  simp [verifyLevel, h]

/-- After `verifyLevel` no level is pending. -/
lemma levelPending_verifyLevel : s.verifyLevel.levelPending = false := by
  cases h : s.levelPending with
  | false => rw [verifyLevel_of_not_pending h]; exact h
  | true => rw [verifyLevel_of_pending h]; simp [levelPending]

/-- What the level is between calls: it is kept at 0 while the strip is off, is 0 or the on level
while it is on, and the on level is never 0. -/
structure LevelInv (s : StripController n) : Prop where
  /-- the on level is never 0 -/
  onLevel_ne : s.onLevel ≠ 0
  /-- a strip that is off is at level 0 -/
  off : s.turnedOn = false → s.currentLevel = 0
  /-- the level is 0 or the on level -/
  level : s.currentLevel = 0 ∨ s.currentLevel = s.onLevel

lemma levelInv_init : (init n).LevelInv :=
  ⟨by simp [init, ws2812StartLevel], fun _ => rfl, Or.inl rfl⟩

/-- The color of the devices does not show in what the level is. -/
lemma LevelInv.congr {t : StripController n} (h : s.LevelInv) (hon : t.onLevel = s.onLevel)
    (hturned : t.turnedOn = s.turnedOn) (hcur : t.currentLevel = s.currentLevel) :
    t.LevelInv :=
  ⟨by rw [hon]; exact h.onLevel_ne, by rw [hturned, hcur]; exact h.off,
    by rw [hcur, hon]; exact h.level⟩

lemma setLevel_onLevel (newLevel : UInt8) :
    (s.setLevel newLevel).onLevel = if newLevel > 0 then newLevel else s.onLevel := by
  unfold setLevel; split <;> rfl

lemma setLevel_turnedOn (newLevel : UInt8) : (s.setLevel newLevel).turnedOn = s.turnedOn := by
  unfold setLevel; split <;> rfl

lemma setLevel_currentLevel (newLevel : UInt8) : (s.setLevel newLevel).currentLevel =
    if s.turnedOn then (s.setLevel newLevel).onLevel else 0 := by
  unfold setLevel; split <;> rfl

lemma setLevel_bufferRGB (newLevel : UInt8) : (s.setLevel newLevel).bufferRGB = s.bufferRGB := by
  unfold setLevel; split <;> rfl

lemma setLevel_currentColorHS (newLevel : UInt8) :
    (s.setLevel newLevel).currentColorHS = s.currentColorHS := by unfold setLevel; split <;> rfl

/-- No call sets the on level to 0. -/
lemma call_onLevel_ne (h : s.onLevel ≠ 0) (linear : UInt16 → ℚ) (op : StripOp) :
    (s.call linear op).onLevel ≠ 0 := by
  cases op with
  | turnOnOff state => cases state <;> exact h
  | setLevel newLevel =>
    show (s.setLevel newLevel).onLevel ≠ 0
    rw [setLevel_onLevel]
    split
    · rename_i hpos
      exact UInt8.pos_iff_ne_zero.1 hpos
    · exact h
  | setHue hue => exact h
  | setSaturation saturation => exact h
  | setColorTemperature t => exact h

/-- A call keeps a strip that is off dark. -/
lemma call_off_dark (h : s.turnedOn = false → s.currentLevel = 0) (linear : UInt16 → ℚ)
    (op : StripOp) (hoff : (s.call linear op).turnedOn = false) :
    (s.call linear op).currentLevel = 0 := by
  cases op with
  | turnOnOff state =>
    cases state with
    | true => exact absurd hoff (by simp [call, turnOnOff])
    | false => rfl
  | setLevel newLevel =>
    have hoff' : s.turnedOn = false := (setLevel_turnedOn newLevel).symm.trans hoff
    show (s.setLevel newLevel).currentLevel = 0
    rw [setLevel_currentLevel, hoff']
    rfl
  | setHue hue => exact h hoff
  | setSaturation saturation => exact h hoff
  | setColorTemperature t => exact h hoff

lemma LevelInv.verifyLevel (h : s.LevelInv) : s.verifyLevel.LevelInv := by
  by_cases hp : s.levelPending = true
  · have hon := (levelPending_iff.1 hp).1
    rw [verifyLevel_of_pending hp]
    exact ⟨h.onLevel_ne, fun hoff => absurd hoff (by simp [hon]), Or.inr rfl⟩
  · rw [verifyLevel_of_not_pending (by simpa using hp)]
    exact h

/-- **The level invariant is kept by every call.** -/
theorem LevelInv.call (h : s.LevelInv) (linear : UInt16 → ℚ) (op : StripOp) :
    (s.call linear op).LevelInv := by
  have hlevel : (s.call linear op).currentLevel = 0 ∨
      (s.call linear op).currentLevel = (s.call linear op).onLevel := by
    cases op with
    | turnOnOff state =>
      cases state with
      | true => exact h.level
      | false => exact Or.inl rfl
    | setLevel newLevel =>
      show (s.setLevel newLevel).currentLevel = 0 ∨
        (s.setLevel newLevel).currentLevel = (s.setLevel newLevel).onLevel
      rw [setLevel_currentLevel]
      split
      · exact Or.inr rfl
      · exact Or.inl rfl
    | setHue hue => exact h.level
    | setSaturation saturation => exact h.level
    | setColorTemperature t => exact h.level
  exact ⟨call_onLevel_ne h.onLevel_ne linear op, call_off_dark h.off linear op, hlevel⟩

/-- What a call leaves pending: it requests a transmission, it leaves the level pending, or it
switches on a strip that is on already and changes nothing. -/
theorem LevelInv.call_pending (h : s.LevelInv) (linear : UInt16 → ℚ) (op : StripOp) :
    (s.call linear op).transmitRequest = true ∨ (s.call linear op).levelPending = true ∨
      (s.call linear op = s ∧ s.turnedOn = true) := by
  cases op with
  | turnOnOff state =>
    cases state with
    | false => exact Or.inl rfl
    | true =>
      cases hon : s.turnedOn with
      | true =>
        refine Or.inr (Or.inr ⟨?_, rfl⟩)
        obtain ⟨_, _, _, _, _, _, _, _⟩ := s
        simp only at hon
        subst hon
        rfl
      | false =>
        -- the strip was off, hence at level 0, which is not its on level
        refine Or.inr (Or.inl (levelPending_iff.2 ⟨rfl, ?_⟩))
        show s.currentLevel ≠ s.onLevel
        rw [h.off hon]
        exact h.onLevel_ne.symm
  | setLevel newLevel => exact Or.inl rfl
  | setHue hue => exact Or.inl rfl
  | setSaturation saturation => exact Or.inl rfl
  | setColorTemperature t => exact Or.inl rfl

/-- Between iterations a strip at rest is at its on level if it is on and at 0 if it is off. -/
lemma LevelInv.currentLevel_eq (h : s.LevelInv) (hp : s.levelPending = false) :
    s.currentLevel = if s.turnedOn then s.onLevel else 0 := by
  cases hon : s.turnedOn with
  | false => simpa using h.off hon
  | true =>
    have hlevel : ¬ (s.turnedOn = true ∧ s.currentLevel ≠ s.onLevel) := by
      rw [← levelPending_iff, hp]; simp
    simp only [if_true]
    by_contra hne
    exact hlevel ⟨hon, hne⟩

end StripController

end MatterStrip
