import MatterStrip.Strip.Wheel

/-!
Colour temperatures: higher mireds are never colder.

`setColorTemperature` shows a temperature as a saturation of one of two hues, a cold one and a warm
one, and changes over where its linear expression changes sign. What red is ahead of blue is a
multiple of the saturation on either hue, negative on the cold one, so that it grows with the linear
expression across the whole range (`balance_mono`), although no single channel does. The linear
expression is read on its decimal constants, without rounding.
-/

namespace MatterStrip

open Lib

/-- By how much red is ahead of blue. -/
def RGB.balance (c : RGB) : ℤ := (c.R.toNat : ℤ) - c.B.toNat

/-! ### From the linear expression to the colour -/

/-- The value that `setColorTemperature` casts to `uint8_t`, from that of its linear expression. -/
def castValue (sat : ℚ) : ℚ := if |sat| > 255 then 255 else |sat|

/-- What `setColorTemperature` does with the value of its linear expression. -/
def satToHS (sat : ℚ) : HueSat :=
  ⟨if sat < 0 then 147 else 20, UInt8.ofNat (castValue sat).floor.toNat⟩

lemma temperatureHS_eq (linear : UInt16 → ℚ) (t : UInt16) :
    temperatureHS linear t = satToHS (linear t) := rfl

lemma castValue_eq (sat : ℚ) : castValue sat = min |sat| 255 := by
  unfold castValue
  split_ifs with h
  · exact (min_eq_right h.le).symm
  · exact (min_eq_left (not_lt.1 h)).symm

lemma castValue_nonneg (sat : ℚ) : 0 ≤ castValue sat := by
  rw [castValue_eq]
  exact le_min (abs_nonneg sat) (by norm_num)

lemma castValue_le (sat : ℚ) : castValue sat ≤ 255 := by
  rw [castValue_eq]
  exact min_le_right _ _

/-- The cast truncates, and loses nothing else. -/
lemma saturation_satToHS (sat : ℚ) : ((satToHS sat).saturation.toNat : ℤ) = ⌊castValue sat⌋ := by
  have hnonneg : 0 ≤ ⌊castValue sat⌋ := Int.floor_nonneg.2 (castValue_nonneg sat)
  have hle : ⌊castValue sat⌋ ≤ 255 := by
    have hcast : castValue sat ≤ ((255 : ℤ) : ℚ) := by exact_mod_cast castValue_le sat
    exact (Int.floor_mono hcast).trans_eq (Int.floor_intCast 255)
  have hsat : (satToHS sat).saturation = UInt8.ofNat ⌊castValue sat⌋.toNat := rfl
  rw [hsat, UInt8.toNat_ofNat_of_lt' (by rw [UInt8.size]; omega), Int.toNat_of_nonneg hnonneg]

/-- The further the linear expression is from 0, the more saturated is the colour. -/
lemma saturation_mono {sat sat' : ℚ} (h : |sat| ≤ |sat'|) :
    (satToHS sat).saturation.toNat ≤ (satToHS sat').saturation.toNat := by
  have hcast : castValue sat ≤ castValue sat' := by
    rw [castValue_eq, castValue_eq]
    exact min_le_min_right _ h
  have hfloor := Int.floor_mono hcast
  rw [← saturation_satToHS, ← saturation_satToHS] at hfloor
  omega

/-- On the cold hue blue is ahead. -/
lemma balance_cold {sat : ℚ} (h : sat < 0) :
    (convertHStoRGB (satToHS sat)).balance =
      -(scale 255 0 (satToHS sat).saturation.toNat 186 : ℕ) := by
  have hhue : (satToHS sat).hue = 147 := if_pos h
  have hR : hueChannel (huePosition 147) .red = 0 := by decide
  have hB : hueChannel (huePosition 147) .blue = 186 := by decide
  have hred := convertHStoRGB_toNat (satToHS sat) .red
  have hblue := convertHStoRGB_toNat (satToHS sat) .blue
  rw [hhue, hR, shade_eq_scale, scale_zero (by omega)] at hred
  rw [hhue, hB, shade_eq_scale] at hblue
  simp only [RGB.channel] at hred hblue
  rw [RGB.balance, hred, hblue]
  omega

/-- On the warm hue red is ahead. -/
lemma balance_warm {sat : ℚ} (h : 0 ≤ sat) :
    (convertHStoRGB (satToHS sat)).balance =
      (scale 255 0 (satToHS sat).saturation.toNat 195 : ℕ) := by
  have hhue : (satToHS sat).hue = 20 := if_neg (not_lt.2 h)
  have hR : hueChannel (huePosition 20) .red = 195 := by decide
  have hB : hueChannel (huePosition 20) .blue = 0 := by decide
  have hred := convertHStoRGB_toNat (satToHS sat) .red
  have hblue := convertHStoRGB_toNat (satToHS sat) .blue
  rw [hhue, hR, shade_eq_scale] at hred
  rw [hhue, hB, shade_eq_scale, scale_zero (by omega)] at hblue
  simp only [RGB.channel] at hred hblue
  rw [RGB.balance, hred, hblue]
  omega

lemma balance_nonpos {sat : ℚ} (h : sat < 0) : (convertHStoRGB (satToHS sat)).balance ≤ 0 := by
  rw [balance_cold h]
  omega

lemma balance_nonneg {sat : ℚ} (h : 0 ≤ sat) : 0 ≤ (convertHStoRGB (satToHS sat)).balance := by
  rw [balance_warm h]
  omega

/-- **The balance grows with the linear expression**, also where the hue changes. -/
theorem balance_mono {sat sat' : ℚ} (hle : sat ≤ sat') :
    (convertHStoRGB (satToHS sat)).balance ≤ (convertHStoRGB (satToHS sat')).balance := by
  rcases lt_or_ge sat' 0 with h' | h'
  · -- both on the cold hue, where the saturation falls
    have h : sat < 0 := hle.trans_lt h'
    have habs : |sat'| ≤ |sat| := by
      rw [abs_of_neg h, abs_of_neg h']
      exact neg_le_neg hle
    have hscale : scale 255 0 (satToHS sat').saturation.toNat 186 ≤
        scale 255 0 (satToHS sat).saturation.toNat 186 := scale_mono_factor (saturation_mono habs)
    rw [balance_cold h, balance_cold h']
    omega
  · rcases lt_or_ge sat 0 with h | h
    · exact (balance_nonpos h).trans (balance_nonneg h')
    · have habs : |sat| ≤ |sat'| := by
        rw [abs_of_nonneg h, abs_of_nonneg h']
        exact hle
      have hscale : scale 255 0 (satToHS sat).saturation.toNat 195 ≤
          scale 255 0 (satToHS sat').saturation.toNat 195 :=
        scale_mono_factor (saturation_mono habs)
      rw [balance_warm h, balance_warm h']
      omega

/-! ### From the temperature to the buffer -/

/-- The linear expression of `setColorTemperature` at any number of mireds. -/
def linearOf (t : ℕ) : ℚ := 0.666105 * t - 85.42327

lemma linearOf_mono : Monotone linearOf := by
  intro t t' h
  have hcast : (t : ℚ) ≤ t' := by exact_mod_cast h
  unfold linearOf
  linarith

namespace StripController

variable {n : ℕ}

/-- `setColorTemperature` at any number of mireds. -/
def setMireds (s : StripController n) (t : ℕ) : StripController n :=
  { s with currentColorHS := satToHS (linearOf t) }.setFixedColor

lemma setColorTemperature_eq (s : StripController n) (t : UInt16) :
    s.setColorTemperature linearExact t = s.setMireds t.toNat := by
  rw [setColorTemperature, temperatureHS_eq]
  rfl

lemma setMireds_device (s : StripController n) (t : ℕ) (dev : Fin n) :
    (s.setMireds t).bufferRGB.get dev = convertHStoRGB (satToHS (linearOf t)) :=
  Vector.getElem_replicate dev.isLt

/-- **Higher mireds are never colder.** The cast stays in range, red gains on blue on every device,
blue is ahead exactly on the cold side, and neither the switch nor the level is touched. -/
theorem warmer_with_mireds :
    (∀ t, 0 ≤ castValue (linearOf t) ∧ castValue (linearOf t) ≤ 255 ∧
        ((satToHS (linearOf t)).saturation.toNat : ℤ) = ⌊castValue (linearOf t)⌋) ∧
      (∀ (s s' : StripController n) (t t' : ℕ), t ≤ t' → ∀ dev : Fin n,
        ((s.setMireds t).bufferRGB.get dev).balance ≤
          ((s'.setMireds t').bufferRGB.get dev).balance) ∧
      (∀ (s : StripController n) (t : ℕ) (dev : Fin n),
        (linearOf t < 0 →
          ((s.setMireds t).bufferRGB.get dev).R ≤ ((s.setMireds t).bufferRGB.get dev).B) ∧
        (0 ≤ linearOf t →
          ((s.setMireds t).bufferRGB.get dev).B ≤ ((s.setMireds t).bufferRGB.get dev).R)) ∧
      (∀ (s : StripController n) (t : ℕ), (s.setMireds t).turnedOn = s.turnedOn ∧
        (s.setMireds t).onLevel = s.onLevel ∧ (s.setMireds t).currentLevel = s.currentLevel) ∧
      ∀ (s : StripController n) (t : UInt16),
        s.setColorTemperature linearExact t = s.setMireds t.toNat := by
  refine ⟨fun t => ⟨castValue_nonneg _, castValue_le _, saturation_satToHS _⟩, ?_, ?_,
    fun _ _ => ⟨rfl, rfl, rfl⟩, setColorTemperature_eq⟩
  · intro s s' t t' h dev
    rw [setMireds_device, setMireds_device]
    exact balance_mono (linearOf_mono h)
  · intro s t dev
    rw [setMireds_device]
    simp only [UInt8.le_iff_toNat_le]
    refine ⟨fun h => ?_, fun h => ?_⟩
    · have hbalance := balance_nonpos h
      unfold RGB.balance at hbalance
      omega
    · have hbalance := balance_nonneg h
      unfold RGB.balance at hbalance
      omega

end StripController

end MatterStrip
