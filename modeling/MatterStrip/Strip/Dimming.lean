import MatterStrip.Lib.Scale
import MatterStrip.Strip.Controller

/-!
What the level does to a colour, as the devices of the strip see it.

`gammaCorrection` squares the level, scales the channel by the result to the nearest, and lifts what
is not black to at least 1. In exact arithmetic that is a scaling with a floor
(`gammaCorrection_toNat`): nothing that it computes on the way is cut off (`gammaCorrection_exact`).
So a strip dims the way one expects of a dimmer (`Dimmer`): a higher level or a brighter channel
never shows less, full level shows the colour itself, and nothing goes out but at level 0.
-/

namespace MatterStrip

open Lib

/-! ### Channels and devices -/

inductive Channel
  | red
  | green
  | blue
  deriving DecidableEq, Repr

def RGB.channel (c : RGB) : Channel → UInt8
  | .red => c.R
  | .green => c.G
  | .blue => c.B

namespace Strip

variable {n : ℕ} (w : Strip n)

/-- The colours that the devices took out of the last frame. -/
def lastColours : List RGB := (w.sent.head?.map decodeFrame).getD []

/-- The value that device `dev` took for a channel out of the last frame. -/
def decoded (dev : Fin n) (ch : Channel) : UInt8 := (w.lastColours.getD dev default).channel ch

/-- The strip with another level. -/
def withLevel (level : UInt8) : Strip n := { w with ctl := { w.ctl with currentLevel := level } }

end Strip

/-! ### `gammaCorrection` in exact arithmetic -/

lemma correctedLevel_le (level : UInt8) : level.toNat * level.toNat / 255 ≤ 255 := by
  have hl := level.toNat_lt
  have hmul : level.toNat * level.toNat ≤ 255 * 255 := Nat.mul_le_mul (by omega) (by omega)
  omega

lemma correctedLevel_toNat (level : UInt8) :
    (correctedLevel level).toNat = level.toNat * level.toNat / 255 := by
  have hle := correctedLevel_le level
  rw [correctedLevel, maxLevel, UInt16.toNat_ofNat_of_lt']
  rw [UInt16.size]
  omega

/-- Neither product of `gammaCorrection` leaves the range of `int`, and neither cast changes its
value. -/
def GammaExact (colorValue level : UInt8) : Prop :=
  level.toNat * level.toNat < 2 ^ 31 ∧
    (correctedLevel level).toNat = level.toNat * level.toNat / maxLevel ∧
    colorValue.toNat * (correctedLevel level).toNat + maxLevel2 < 2 ^ 31 ∧
    (correctedColorValue colorValue level).toNat =
      (colorValue.toNat * (correctedLevel level).toNat + maxLevel2) / maxLevel

/-- **Nothing is cut off.** -/
theorem gammaCorrection_exact (colorValue level : UInt8) : GammaExact colorValue level := by
  have hc := colorValue.toNat_lt
  have hl := level.toNat_lt
  have hle := correctedLevel_le level
  have hsquare : level.toNat * level.toNat ≤ 255 * 255 := Nat.mul_le_mul (by omega) (by omega)
  have hmul : colorValue.toNat * (level.toNat * level.toNat / 255) ≤ 255 * 255 :=
    Nat.mul_le_mul (by omega) hle
  rw [GammaExact, correctedColorValue, correctedLevel_toNat, maxLevel, maxLevel2]
  refine ⟨by omega, rfl, by omega, UInt8.toNat_ofNat_of_lt' ?_⟩
  rw [UInt8.size]
  omega

/-- What `gammaCorrection` computes: the channel scaled by the square of the level, and at least 1
unless it is black or the level is 0. -/
theorem gammaCorrection_toNat (c level : UInt8) :
    (gammaCorrection c level).toNat =
      max (scale 255 127 (level.toNat * level.toNat / 255) c.toNat)
        (if c ≠ 0 ∧ level ≠ 0 then 1 else 0) := by
  have hexact : (correctedColorValue c level).toNat =
      scale 255 127 (level.toNat * level.toNat / 255) c.toNat := by
    rw [(gammaCorrection_exact c level).2.2.2, correctedLevel_toNat]
    rfl
  unfold gammaCorrection
  simp only [gt_iff_lt, UInt8.pos_iff_ne_zero]
  by_cases hlit : c ≠ 0 ∧ level ≠ 0
  · rw [if_pos hlit]
    by_cases hzero : correctedColorValue c level = 0
    · -- what would be rounded to black is lifted to 1
      have hscale : scale 255 127 (level.toNat * level.toNat / 255) c.toNat = 0 := by
        rw [← hexact, hzero]
        rfl
      rw [if_pos ⟨hzero, hlit⟩, hscale]
      rfl
    · have hpos : 0 < scale 255 127 (level.toNat * level.toNat / 255) c.toNat := by
        rw [← hexact]
        exact UInt8.pos_iff_ne_zero.2 hzero
      rw [if_neg (fun h => hzero h.1), hexact]
      omega
  · rw [if_neg hlit, if_neg (fun h => hlit h.2), hexact, Nat.max_zero]

/-! ### A dimmer -/

/-- What one expects of a dimmer that is given the values `colour` and shows `shown` of them at a
level. -/
structure Dimmer {ι : Type*} (colour : ι → UInt8) (shown : UInt8 → ι → UInt8) : Prop where
  /-- A higher level shows no less. -/
  mono : ∀ l₁ l₂, l₁ ≤ l₂ → ∀ i, shown l₁ i ≤ shown l₂ i
  le : ∀ l i, shown l i ≤ colour i
  /-- Only what is black goes out above level 0. -/
  zero_iff : ∀ l i, shown l i = 0 ↔ colour i = 0 ∨ l = 0
  /-- Full level shows the colour itself. -/
  full : ∀ i, shown 255 i = colour i
  /-- A brighter value shows no less. -/
  order : ∀ l i j, colour i ≤ colour j → shown l i ≤ shown l j

theorem Dimmer.comap {ι κ : Type*} {colour : ι → UInt8} {shown : UInt8 → ι → UInt8}
    (h : Dimmer colour shown) (f : κ → ι) :
    Dimmer (fun k => colour (f k)) (fun l k => shown l (f k)) :=
  ⟨fun l₁ l₂ hl k => h.mono l₁ l₂ hl (f k), fun l k => h.le l (f k),
    fun l k => h.zero_iff l (f k), fun k => h.full (f k),
    fun l j k hjk => h.order l (f j) (f k) hjk⟩

lemma square_div_le {l₁ l₂ : UInt8} (h : l₁ ≤ l₂) :
    l₁.toNat * l₁.toNat / 255 ≤ l₂.toNat * l₂.toNat / 255 := by
  have hle : l₁.toNat ≤ l₂.toNat := UInt8.le_iff_toNat_le.1 h
  exact Nat.div_le_div_right (Nat.mul_le_mul hle hle)

lemma gammaCorrection_mono_level {l₁ l₂ : UInt8} (h : l₁ ≤ l₂) (c : UInt8) :
    gammaCorrection c l₁ ≤ gammaCorrection c l₂ := by
  have hscale : scale 255 127 (l₁.toNat * l₁.toNat / 255) c.toNat ≤
      scale 255 127 (l₂.toNat * l₂.toNat / 255) c.toNat := scale_mono_factor (square_div_le h)
  have hlift : (if c ≠ 0 ∧ l₁ ≠ 0 then 1 else 0) ≤ if c ≠ 0 ∧ l₂ ≠ 0 then 1 else 0 := by
    split_ifs with h₁ h₂
    · exact le_rfl
    · -- a level above one that is not 0 is not 0
      have hpos : 0 < l₂.toNat :=
        (UInt8.pos_iff_ne_zero.2 h₁.2 : 0 < l₁.toNat).trans_le (UInt8.le_iff_toNat_le.1 h)
      exact absurd ⟨h₁.1, UInt8.pos_iff_ne_zero.1 hpos⟩ h₂
    · exact Nat.zero_le 1
    · exact le_rfl
  rw [UInt8.le_iff_toNat_le, gammaCorrection_toNat, gammaCorrection_toNat]
  exact max_le_max hscale hlift

lemma gammaCorrection_mono_color {c d : UInt8} (h : c ≤ d) (l : UInt8) :
    gammaCorrection c l ≤ gammaCorrection d l := by
  have hle : c.toNat ≤ d.toNat := UInt8.le_iff_toNat_le.1 h
  have hlift : (if c ≠ 0 ∧ l ≠ 0 then 1 else 0) ≤ if d ≠ 0 ∧ l ≠ 0 then 1 else 0 := by
    split_ifs with h₁ h₂
    · exact le_rfl
    · have hpos : 0 < d.toNat := (UInt8.pos_iff_ne_zero.2 h₁.1 : 0 < c.toNat).trans_le hle
      exact absurd ⟨UInt8.pos_iff_ne_zero.1 hpos, h₁.2⟩ h₂
    · exact Nat.zero_le 1
    · exact le_rfl
  rw [UInt8.le_iff_toNat_le, gammaCorrection_toNat, gammaCorrection_toNat]
  exact max_le_max (scale_mono hle) hlift

lemma gammaCorrection_le (c l : UInt8) : gammaCorrection c l ≤ c := by
  rw [UInt8.le_iff_toNat_le, gammaCorrection_toNat, max_le_iff]
  refine ⟨scale_le (by omega) (correctedLevel_le l), ?_⟩
  split_ifs with hlit
  · exact UInt8.pos_iff_ne_zero.2 hlit.1
  · exact Nat.zero_le _

lemma gammaCorrection_full (c : UInt8) : gammaCorrection c 255 = c := by
  have hle := UInt8.le_iff_toNat_le.1 (gammaCorrection_le c 255)
  have hscale : scale 255 127 255 c.toNat = c.toNat := scale_self (by omega)
  have hge : c.toNat ≤ (gammaCorrection c 255).toNat := by
    rw [gammaCorrection_toNat]
    exact hscale.symm.trans_le (le_max_left _ _)
  exact UInt8.toNat_inj.1 (Nat.le_antisymm hle hge)

/-- **`gammaCorrection` is a dimmer.** -/
theorem gammaCorrection_dimmer : Dimmer id fun l c => gammaCorrection c l :=
  ⟨fun _ _ h c => gammaCorrection_mono_level h c, fun l c => gammaCorrection_le c l,
    fun _ _ => gammaCorrection_eq_zero_iff, gammaCorrection_full,
    fun l _ _ h => gammaCorrection_mono_color h l⟩

/-! ### On the wire -/

lemma RGB.channel_atLevel (c : RGB) (level : UInt8) (ch : Channel) :
    (c.atLevel level).channel ch = gammaCorrection (c.channel ch) level := by
  cases ch <;> rfl

namespace Strip

variable {n : ℕ} {w : Strip n} {level : UInt8} {colours : Vector RGB n}

lemma lastColours_of_sent (h : w.sent.head? = some (frame level colours.toList)) :
    w.lastColours = colours.toList.map fun c => c.atLevel level := by
  rw [lastColours, h, Option.map_some, Option.getD_some, decodeFrame_frame]

/-- A device takes its colour at the level of the frame. -/
lemma decoded_of_sent (h : w.sent.head? = some (frame level colours.toList)) (dev : Fin n)
    (ch : Channel) :
    w.decoded dev ch = gammaCorrection (colours[dev].channel ch) level := by
  rw [decoded, lastColours_of_sent h, List.getD_eq_getElem _ _ (by simp),
    List.getElem_map, RGB.channel_atLevel]
  rfl

/-- **The dimming law on the wire.** Whatever the strip holds, `dataTransmit` gives every device a
colour, the levels dim these colours as a dimmer does, and nothing is cut off on the way. -/
theorem wire_dimmer (w : Strip n) :
    (∀ level, (w.withLevel level).dataTransmit.lastColours.length = n) ∧
      Dimmer (fun p : Fin n × Channel => w.ctl.bufferRGB[p.1].channel p.2)
        (fun level p => (w.withLevel level).dataTransmit.decoded p.1 p.2) ∧
      ∀ colorValue level, GammaExact colorValue level := by
  have hsent : ∀ level, (w.withLevel level).dataTransmit.sent.head? =
      some (frame level w.ctl.bufferRGB.toList) := by
    intro level
    rw [dataTransmit_sent]
    rfl
  refine ⟨?_, ?_, gammaCorrection_exact⟩
  · intro level
    rw [lastColours_of_sent (hsent level), List.length_map, Vector.length_toList]
  · simp only [decoded_of_sent (hsent _)]
    exact gammaCorrection_dimmer.comap fun p : Fin n × Channel => w.ctl.bufferRGB[p.1].channel p.2

end Strip

end MatterStrip
