import Mathlib.Data.Rat.Floor

/-!
The colours of the strip: `convertHStoRGB`, and the hue and saturation that
`setColorTemperature` chooses.

`convertHStoRGB` interpolates between the nodes red, green, blue and red in three sectors of 85
hues, scales by the saturation and adds a floor. On every hue one channel falls from 255 by 3 for
each hue of the sector while the next one rises from 0 by 3 (`convertHStoRGB_eq`), so that one of
the two is at least 128: no hue and saturation give black (`convertHStoRGB_lit`).
-/

namespace MatterStrip

structure RGB where
  R : UInt8
  G : UInt8
  B : UInt8
  deriving DecidableEq, Repr, Inhabited

structure HueSat where
  hue : UInt8
  saturation : UInt8
  deriving DecidableEq, Repr, Inhabited

/-- At least one channel of the colour is not zero. -/
def RGB.Lit (c : RGB) : Prop := c.R ≠ 0 ∨ c.G ≠ 0 ∨ c.B ≠ 0

instance (c : RGB) : Decidable c.Lit := by unfold RGB.Lit; infer_instance

/-! ### Hue and saturation to RGB -/

def numbOfSectors : ℕ := 3

def maxHue : ℕ := 254

def hueSectorSize : ℕ := (maxHue + 1) / numbOfSectors

def rgbNodes : List RGB := [⟨0xFF, 0, 0⟩, ⟨0, 0xFF, 0⟩, ⟨0, 0, 0xFF⟩, ⟨0xFF, 0, 0⟩]

/-- One of the three expressions `R`, `G`, `B` of `convertHStoRGB`, before the cast: the products
and quotients are those of `int`, which truncate toward zero. -/
def channelValue (node next : UInt8) (hueSect saturation saturationFloor : ℕ) : ℤ :=
  ((node.toNat + (((next.toNat : ℤ) - node.toNat) * hueSect).tdiv hueSectorSize) * saturation).tdiv
    0xFF + saturationFloor

/-- The hue that `convertHStoRGB` calculates with, in the range <0,254>. -/
def clampHue (hue : UInt8) : ℕ := if hue.toNat > maxHue then maxHue else hue.toNat

def convertHStoRGB (colorHS : HueSat) : RGB :=
  let hue := clampHue colorHS.hue
  let idx := hue / hueSectorSize
  let hueSect := hue % hueSectorSize
  let saturation := colorHS.saturation.toNat
  let saturationFloor := (0xFF - saturation) >>> 1
  let node := rgbNodes.getD idx default
  let next := rgbNodes.getD (idx + 1) default
  { R := UInt8.ofInt (channelValue node.R next.R hueSect saturation saturationFloor)
    G := UInt8.ofInt (channelValue node.G next.G hueSect saturation saturationFloor)
    B := UInt8.ofInt (channelValue node.B next.B hueSect saturation saturationFloor) }

/-- The value of a channel that is `b` at full saturation, at the saturation `s`. -/
def shade (b s : ℕ) : ℕ := b * s / 255 + (255 - s) / 2

lemma shade_le {b s : ℕ} (hb : b ≤ 255) (hs : s ≤ 255) : shade b s ≤ 255 := by
  have hmul : b * s ≤ 255 * s := Nat.mul_le_mul_right s hb
  have hdiv : b * s / 255 ≤ s := Nat.div_le_of_le_mul hmul
  unfold shade
  omega

/-- A channel in the upper half of its range is never shaded to zero. -/
lemma shade_pos {b s : ℕ} (hb : 128 ≤ b) (hs : s ≤ 255) : 0 < shade b s := by
  unfold shade
  rcases Nat.lt_or_ge s 254 with h | h
  · omega
  · have hmul : 128 * 254 ≤ b * s := Nat.mul_le_mul hb h
    have hdiv : 1 ≤ b * s / 255 := (Nat.le_div_iff_mul_le (by omega)).2 (by omega)
    omega

lemma shiftRight_one (n : ℕ) : n >>> 1 = n / 2 := by rw [Nat.shiftRight_eq_div_pow, pow_one]

section Channel

variable {k s : ℕ}

/-- A channel whose interpolated value is `b` is shaded by the saturation. -/
lemma channelValue_eq {node next : UInt8} {b : ℕ}
    (hb : (node.toNat : ℤ) + (((next.toNat : ℤ) - node.toNat) * k).tdiv hueSectorSize = b) :
    channelValue node next k s ((255 - s) >>> 1) = shade b s := by
  have hdiv : ((b : ℤ) * s).tdiv 0xFF = ((b * s / 255 : ℕ) : ℤ) := by
    rw [Int.tdiv_eq_ediv_of_nonneg (by positivity)]
    push_cast
    rfl
  unfold channelValue shade
  rw [hb, hdiv, shiftRight_one]
  push_cast
  rfl

lemma channelValue_falling (hk : k < 85) :
    channelValue 0xFF 0 k s ((255 - s) >>> 1) = shade (255 - 3 * k) s := by
  refine channelValue_eq ?_
  have hinner : (((0 : UInt8).toNat : ℤ) - (0xFF : UInt8).toNat) * k = -(3 * k) * 85 := by
    simp; ring
  rw [hinner, show ((hueSectorSize : ℕ) : ℤ) = 85 from rfl, Int.mul_tdiv_cancel _ (by decide)]
  simp only [UInt8.reduceToNat]
  omega

lemma channelValue_rising : channelValue 0 0xFF k s ((255 - s) >>> 1) = shade (3 * k) s := by
  refine channelValue_eq ?_
  have hinner : (((0xFF : UInt8).toNat : ℤ) - (0 : UInt8).toNat) * k = (3 * k) * 85 := by
    simp; ring
  rw [hinner, show ((hueSectorSize : ℕ) : ℤ) = 85 from rfl, Int.mul_tdiv_cancel _ (by decide)]
  simp

lemma channelValue_off : channelValue 0 0 k s ((255 - s) >>> 1) = shade 0 s :=
  channelValue_eq (by simp)

end Channel

/-- The channels of a colour before the saturation is applied: one falls, one rises, one is off. -/
def hueChannels (idx k : ℕ) : ℕ × ℕ × ℕ :=
  match idx with
  | 0 => (255 - 3 * k, 3 * k, 0)
  | 1 => (0, 255 - 3 * k, 3 * k)
  | _ => (3 * k, 0, 255 - 3 * k)

/-- The channels between the nodes of a sector are those of the hue, shaded by the saturation. -/
lemma channelValue_sector {idx k : ℕ} (hidx : idx < 3) (hk : k < 85) (s : ℕ) :
    let node := rgbNodes.getD idx default
    let next := rgbNodes.getD (idx + 1) default
    channelValue node.R next.R k s ((255 - s) >>> 1) = shade (hueChannels idx k).1 s ∧
      channelValue node.G next.G k s ((255 - s) >>> 1) = shade (hueChannels idx k).2.1 s ∧
      channelValue node.B next.B k s ((255 - s) >>> 1) = shade (hueChannels idx k).2.2 s := by
  have hcases : idx = 0 ∨ idx = 1 ∨ idx = 2 := by omega
  rcases hcases with rfl | rfl | rfl <;>
    simp only [rgbNodes, List.getD_cons_zero, List.getD_cons_succ, hueChannels, Nat.reduceAdd,
      channelValue_falling hk, channelValue_rising, channelValue_off, and_self]

lemma clampHue_le (hue : UInt8) : clampHue hue ≤ 254 := by
  unfold clampHue maxHue
  split <;> omega

/-- The sector index stays inside the table of nodes. -/
theorem sector_lt (hue : UInt8) : clampHue hue / hueSectorSize + 1 < rgbNodes.length := by
  have h := clampHue_le hue
  have hlt : clampHue hue / 85 < 3 := Nat.div_lt_of_lt_mul (by omega)
  exact Nat.succ_lt_succ hlt

lemma ofInt_natCast (n : ℕ) : UInt8.ofInt (n : ℤ) = UInt8.ofNat n := by
  have hmod : ((n : ℤ) % 2 ^ 8).toNat = n % 2 ^ 8 := by omega
  unfold UInt8.ofInt
  rw [hmod]
  exact UInt8.toNat_inj.1 (by simp)

/-- **`convertHStoRGB` in closed form**: the channels of the hue, shaded by the saturation. -/
theorem convertHStoRGB_eq (c : HueSat) :
    convertHStoRGB c =
      let ch := hueChannels (clampHue c.hue / 85) (clampHue c.hue % 85)
      let s := c.saturation.toNat
      ⟨UInt8.ofNat (shade ch.1 s), UInt8.ofNat (shade ch.2.1 s), UInt8.ofNat (shade ch.2.2 s)⟩ := by
  have hk : clampHue c.hue % 85 < 85 := Nat.mod_lt _ (by omega)
  have hle := clampHue_le c.hue
  have hidx : clampHue c.hue / 85 < 3 := Nat.div_lt_of_lt_mul (by omega)
  obtain ⟨hR, hG, hB⟩ := channelValue_sector hidx hk c.saturation.toNat
  simp only [convertHStoRGB, show hueSectorSize = 85 from rfl, hR, hG, hB, ofInt_natCast]

/-- Every hue has a channel in the upper half of the range. -/
lemma hueChannels_large (idx : ℕ) {k : ℕ} (hk : k < 85) :
    128 ≤ (hueChannels idx k).1 ∨ 128 ≤ (hueChannels idx k).2.1 ∨
      128 ≤ (hueChannels idx k).2.2 := by
  unfold hueChannels
  split <;> simp only <;> omega

lemma hueChannels_le (idx : ℕ) {k : ℕ} (hk : k < 85) :
    (hueChannels idx k).1 ≤ 255 ∧ (hueChannels idx k).2.1 ≤ 255 ∧
      (hueChannels idx k).2.2 ≤ 255 := by
  unfold hueChannels
  split <;> simp only <;> omega

lemma ofNat_shade_ne_zero {b s : ℕ} (hb : 128 ≤ b) (hb' : b ≤ 255) (hs : s ≤ 255) :
    UInt8.ofNat (shade b s) ≠ 0 := by
  have hpos := shade_pos hb hs
  have hle := shade_le hb' hs
  intro h
  have := congrArg UInt8.toNat h
  rw [UInt8.toNat_ofNat_of_lt' (by rw [UInt8.size]; omega)] at this
  simp at this
  omega

/-- **No hue and saturation give black.** -/
theorem convertHStoRGB_lit (c : HueSat) : (convertHStoRGB c).Lit := by
  have hk : clampHue c.hue % 85 < 85 := Nat.mod_lt _ (by omega)
  have hs : c.saturation.toNat ≤ 255 := by have := c.saturation.toNat_lt; omega
  obtain ⟨h1, h2, h3⟩ := hueChannels_le (clampHue c.hue / 85) hk
  rw [convertHStoRGB_eq]
  rcases hueChannels_large (clampHue c.hue / 85) hk with h | h | h
  · exact Or.inl (ofNat_shade_ne_zero h h1 hs)
  · exact Or.inr (Or.inl (ofNat_shade_ne_zero h h2 hs))
  · exact Or.inr (Or.inr (ofNat_shade_ne_zero h h3 hs))

/-! ### Colour temperature to hue and saturation -/

/-- The hue and saturation that `setColorTemperature` stores. `linear` is the value of its `float`
expression `0.666105f * colorTemperature - 85.42327f`. -/
def temperatureHS (linear : UInt16 → ℚ) (colorTemperature : UInt16) : HueSat :=
  let sat := linear colorTemperature
  let hue : UInt8 := if sat < 0 then 147 else 20
  let sat := |sat|
  let sat := if sat > 255 then 255 else sat
  ⟨hue, UInt8.ofNat sat.floor.toNat⟩

/-- The linear expression of `setColorTemperature` on its decimal constants, without rounding. -/
def linearExact (colorTemperature : UInt16) : ℚ := 0.666105 * colorTemperature.toNat - 85.42327

end MatterStrip
