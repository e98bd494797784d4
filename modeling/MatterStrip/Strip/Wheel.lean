import MatterStrip.Strip.Dimming
import MatterStrip.Strip.LastWriter

/-!
The colour wheel, from `setHue` to the wire.

On the circle of hues 0 to 254 one channel falls by 3 from each hue to the next while another rises
by 3, also where the sectors meet and from 254 back to 0 (`hueChannel_within`). The saturation and
the level only scale down, so that no device sees a step of more than 3 between neighbours
(`smooth_wheel`); and as the falling and the rising channel add up to 255 throughout, the hue changes
the sum of the channels by what is rounded off at most.
-/

namespace MatterStrip

open Lib

/-! ### The circle of hues -/

/-- Where a hue is on the circle of 255 hues; 255 is where 254 is. -/
def huePosition (hue : UInt8) : ℕ := min hue.toNat 254

/-- Two hues are neighbours on the circle, which closes from 254 to 0. -/
def Neighbours (hue hue' : UInt8) : Prop :=
  (huePosition hue + 1) % 255 = huePosition hue' ∨ (huePosition hue' + 1) % 255 = huePosition hue

instance (hue hue' : UInt8) : Decidable (Neighbours hue hue') := by
  unfold Neighbours; infer_instance

lemma clampHue_eq (hue : UInt8) : clampHue hue = huePosition hue := by
  unfold clampHue huePosition maxHue
  split <;> omega

lemma huePosition_lt (hue : UInt8) : huePosition hue < 255 :=
  Nat.lt_succ_of_le (Nat.min_le_right _ _)

/-- The value of a channel at a position of the circle, before the saturation is applied. -/
def hueChannel (p : ℕ) : Channel → ℕ
  | .red => (hueChannels (p / 85) (p % 85)).1
  | .green => (hueChannels (p / 85) (p % 85)).2.1
  | .blue => (hueChannels (p / 85) (p % 85)).2.2

/-- The three sectors. -/
lemma hueChannel_cases {p : ℕ} (hp : p < 255) :
    (p < 85 ∧ hueChannels (p / 85) (p % 85) = (255 - 3 * p, 3 * p, 0)) ∨
    (85 ≤ p ∧ p < 170 ∧
      hueChannels (p / 85) (p % 85) = (0, 255 - 3 * (p - 85), 3 * (p - 85))) ∨
    (170 ≤ p ∧ hueChannels (p / 85) (p % 85) = (3 * (p - 170), 0, 255 - 3 * (p - 170))) := by
  by_cases h₁ : p < 85
  · left
    have hdiv : p / 85 = 0 := by omega
    have hmod : p % 85 = p := by omega
    rw [hdiv, hmod]
    exact ⟨h₁, rfl⟩
  · by_cases h₂ : p < 170
    · right; left
      have hdiv : p / 85 = 1 := by omega
      have hmod : p % 85 = p - 85 := by omega
      rw [hdiv, hmod]
      exact ⟨by omega, h₂, rfl⟩
    · right; right
      have hdiv : p / 85 = 2 := by omega
      have hmod : p % 85 = p - 170 := by omega
      rw [hdiv, hmod]
      exact ⟨by omega, rfl⟩

/-- **From one position to the next a channel changes by at most 3.** -/
theorem hueChannel_within {p : ℕ} (hp : p < 255) (ch : Channel) :
    Within 3 (hueChannel p ch) (hueChannel ((p + 1) % 255) ch) := by
  have hnext : (p + 1) % 255 < 255 := Nat.mod_lt _ (by omega)
  have hsucc : (p + 1) % 255 = p + 1 ∨ p = 254 ∧ (p + 1) % 255 = 0 := by omega
  rcases hueChannel_cases hp with ⟨h, heq⟩ | ⟨h, h', heq⟩ | ⟨h, heq⟩ <;>
    rcases hueChannel_cases hnext with ⟨k, keq⟩ | ⟨k, k', keq⟩ | ⟨k, keq⟩ <;>
    cases ch <;> simp only [hueChannel, heq, keq, Within] <;> omega

/-- The falling and the rising channel add up to 255. -/
lemma hueChannel_sum {p : ℕ} (hp : p < 255) : ∃ x ≤ 255, ∀ f : ℕ → ℕ,
    f (hueChannel p .red) + f (hueChannel p .green) + f (hueChannel p .blue) =
      f (255 - x) + f x + f 0 := by
  rcases hueChannel_cases hp with ⟨h, heq⟩ | ⟨h, h', heq⟩ | ⟨h, heq⟩
  · refine ⟨3 * p, by omega, fun f => ?_⟩
    simp only [hueChannel, heq]
  · refine ⟨3 * (p - 85), by omega, fun f => ?_⟩
    simp only [hueChannel, heq]
    omega
  · refine ⟨3 * (p - 170), by omega, fun f => ?_⟩
    simp only [hueChannel, heq]
    omega

/-! ### The colours -/

/-- The expressions `R`, `G`, `B` of `convertHStoRGB`, before the cast to `uint8_t`. -/
def beforeCast (colorHS : HueSat) (ch : Channel) : ℤ :=
  channelValue
    ((rgbNodes.getD (clampHue colorHS.hue / hueSectorSize) default).channel ch)
    ((rgbNodes.getD (clampHue colorHS.hue / hueSectorSize + 1) default).channel ch)
    (clampHue colorHS.hue % hueSectorSize) colorHS.saturation.toNat
    ((0xFF - colorHS.saturation.toNat) >>> 1)

/-- The cast makes the channels of the colour. -/
lemma convertHStoRGB_channel (colorHS : HueSat) (ch : Channel) :
    (convertHStoRGB colorHS).channel ch = UInt8.ofInt (beforeCast colorHS ch) := by
  cases ch <;> rfl

lemma beforeCast_eq (colorHS : HueSat) (ch : Channel) :
    beforeCast colorHS ch =
      shade (hueChannel (huePosition colorHS.hue) ch) colorHS.saturation.toNat := by
  have hk : huePosition colorHS.hue % 85 < 85 := Nat.mod_lt _ (by omega)
  have hidx : huePosition colorHS.hue / 85 < 3 :=
    Nat.div_lt_of_lt_mul (huePosition_lt colorHS.hue)
  obtain ⟨hR, hG, hB⟩ := channelValue_sector hidx hk colorHS.saturation.toNat
  simp only [beforeCast, clampHue_eq, show hueSectorSize = 85 from rfl]
  cases ch with
  | red => exact hR
  | green => exact hG
  | blue => exact hB

lemma shade_eq_scale (b s : ℕ) : shade b s = scale 255 0 s b + (255 - s) / 2 := rfl

lemma saturation_le (colorHS : HueSat) : colorHS.saturation.toNat ≤ 255 :=
  Nat.le_of_lt_succ colorHS.saturation.toNat_lt

lemma hueChannel_le (p : ℕ) (ch : Channel) : hueChannel p ch ≤ 255 := by
  have hk : p % 85 < 85 := Nat.mod_lt _ (by omega)
  obtain ⟨hR, hG, hB⟩ := hueChannels_le (p / 85) hk
  cases ch
  · exact hR
  · exact hG
  · exact hB

/-- **No channel leaves the range of `uint8_t`**, so that the cast changes nothing. -/
theorem beforeCast_range (colorHS : HueSat) (ch : Channel) :
    0 ≤ beforeCast colorHS ch ∧ beforeCast colorHS ch ≤ 255 := by
  have hle := shade_le (hueChannel_le (huePosition colorHS.hue) ch) (saturation_le colorHS)
  rw [beforeCast_eq]
  constructor <;> omega

lemma convertHStoRGB_toNat (colorHS : HueSat) (ch : Channel) :
    ((convertHStoRGB colorHS).channel ch).toNat =
      shade (hueChannel (huePosition colorHS.hue) ch) colorHS.saturation.toNat := by
  have hle := shade_le (hueChannel_le (huePosition colorHS.hue) ch) (saturation_le colorHS)
  rw [convertHStoRGB_channel, beforeCast_eq, ofInt_natCast, UInt8.toNat_ofNat_of_lt']
  rw [UInt8.size]
  omega

/-- Neighbours are as close in the colours as on the circle. -/
lemma convertHStoRGB_within {hue hue' : UInt8} (h : Neighbours hue hue') (saturation : UInt8)
    (ch : Channel) :
    Within 3 ((convertHStoRGB ⟨hue, saturation⟩).channel ch).toNat
      ((convertHStoRGB ⟨hue', saturation⟩).channel ch).toNat := by
  have hcircle : Within 3 (hueChannel (huePosition hue) ch) (hueChannel (huePosition hue') ch) := by
    rcases h with h | h
    · rw [← h]
      exact hueChannel_within (huePosition_lt hue) ch
    · rw [← h]
      exact (hueChannel_within (huePosition_lt hue') ch).symm
  rw [convertHStoRGB_toNat, convertHStoRGB_toNat, shade_eq_scale, shade_eq_scale]
  exact (hcircle.scale (by omega) (saturation_le ⟨hue, saturation⟩)).add_right _

/-- `R + G + B` -/
def RGB.sum (c : RGB) : ℕ := c.R.toNat + c.G.toNat + c.B.toNat

/-- The sum of the channels is what the saturation makes it, up to what is rounded off. -/
lemma sum_convertHStoRGB (hue saturation : UInt8) :
    (convertHStoRGB ⟨hue, saturation⟩).sum ≤
        saturation.toNat + 3 * ((255 - saturation.toNat) / 2) ∧
      saturation.toNat + 3 * ((255 - saturation.toNat) / 2) ≤
        (convertHStoRGB ⟨hue, saturation⟩).sum + 1 := by
  obtain ⟨x, hx, hsum⟩ := hueChannel_sum (huePosition_lt hue)
  have hwhole : scale 255 0 saturation.toNat (255 - x + x) = saturation.toNat := by
    rw [Nat.sub_add_cancel hx, scale, Nat.add_zero, Nat.mul_div_cancel_left _ (by omega)]
  have hsplit := scale_zero_add (m := 255) (k := saturation.toNat) (c := 255 - x) (d := x)
    (by omega)
  have hzero : scale 255 0 saturation.toNat 0 = 0 := scale_zero (by omega)
  have hshade : (convertHStoRGB ⟨hue, saturation⟩).sum =
      shade (255 - x) saturation.toNat + shade x saturation.toNat + shade 0 saturation.toNat := by
    rw [← hsum fun b => shade b saturation.toNat]
    simp only [← convertHStoRGB_toNat ⟨hue, saturation⟩]
    rfl
  rw [hwhole] at hsplit
  rw [hshade, shade_eq_scale, shade_eq_scale, shade_eq_scale, hzero]
  omega

/-! ### On the wire -/

lemma gammaCorrection_within {e : ℕ} {c d : UInt8} (he : 1 ≤ e) (h : Within e c.toNat d.toNat)
    (level : UInt8) :
    Within e (gammaCorrection c level).toNat (gammaCorrection d level).toNat := by
  have hscale := h.scale (r := 127) (by omega : 0 < 255) (correctedLevel_le level)
  rw [gammaCorrection_toNat, gammaCorrection_toNat]
  -- lifting to 1 moves neither by more than 1
  have hlift : ∀ p : Prop, [Decidable p] → (if p then 1 else 0) ≤ 1 := by
    intro p _
    split <;> omega
  have hc := hlift (c ≠ 0 ∧ level ≠ 0)
  have hd := hlift (d ≠ 0 ∧ level ≠ 0)
  unfold Within at hscale ⊢
  omega

namespace Strip

variable {n : ℕ} {w : Strip n}

/-- What is requested, the handler sends at the level that it verifies first. -/
lemma sent_of_transmitRequest (h : w.ctl.transmitRequest = true) :
    w.handlerIteration.sent =
      frame w.ctl.verifyLevel.currentLevel w.ctl.bufferRGB.toList :: w.sent := by
  have hreq : w.ctl.verifyLevel.transmitRequest = true := by
    unfold StripController.verifyLevel
    split
    · rfl
    · exact h
  rw [w.handlerIteration_eq.2, if_pos hreq, StripController.currentFrame,
    StripController.verifyLevel_bufferRGB]

/-- The strip after `setHue` and the iteration of the handler that transmits. -/
def showHue (linear : UInt16 → ℚ) (w : Strip n) (hue : UInt8) : Strip n :=
  (w.call linear (.setHue hue)).handlerIteration

lemma sent_showHue (linear : UInt16 → ℚ) (w : Strip n) (hue : UInt8) :
    (w.showHue linear hue).sent = frame w.ctl.verifyLevel.currentLevel
      (Vector.replicate n (convertHStoRGB ⟨hue, w.ctl.currentColorHS.saturation⟩)).toList ::
        w.sent := by
  have hlevel : (w.call linear (.setHue hue)).ctl.verifyLevel.currentLevel =
      w.ctl.verifyLevel.currentLevel := by
    unfold StripController.verifyLevel
    by_cases h : w.ctl.levelPending = true
    · rw [if_pos h, if_pos (show (w.call linear (.setHue hue)).ctl.levelPending = true from h)]
      rfl
    · rw [if_neg h, if_neg (show ¬ (w.call linear (.setHue hue)).ctl.levelPending = true from h)]
      rfl
  rw [showHue, sent_of_transmitRequest rfl, hlevel]
  rfl

lemma head_sent_showHue (linear : UInt16 → ℚ) (w : Strip n) (hue : UInt8) :
    (w.showHue linear hue).sent.head? = some (frame w.ctl.verifyLevel.currentLevel
      (Vector.replicate n (convertHStoRGB ⟨hue, w.ctl.currentColorHS.saturation⟩)).toList) := by
  rw [sent_showHue, List.head?_cons]

lemma decoded_showHue (linear : UInt16 → ℚ) (w : Strip n) (hue : UInt8) (dev : Fin n)
    (ch : Channel) :
    (w.showHue linear hue).decoded dev ch =
      gammaCorrection ((convertHStoRGB ⟨hue, w.ctl.currentColorHS.saturation⟩).channel ch)
        w.ctl.verifyLevel.currentLevel := by
  rw [decoded_of_sent (head_sent_showHue linear w hue)]
  simp

/-- **A smooth and power-neutral colour wheel.** Neighbouring hues send frames in which no channel
of any device differs by more than 3; the hue changes the sum of the channels by at most 1; and what
`convertHStoRGB` computes stays within its table and within `uint8_t`. -/
theorem smooth_wheel (linear : UInt16 → ℚ) (w : Strip n) :
    (∀ hue, (w.showHue linear hue).sent.length = w.sent.length + 1 ∧
      (w.showHue linear hue).lastColours.length = n) ∧
      (∀ hue hue', Neighbours hue hue' → ∀ dev ch,
        Within 3 ((w.showHue linear hue).decoded dev ch).toNat
          ((w.showHue linear hue').decoded dev ch).toNat) ∧
      (∀ saturation, convertHStoRGB ⟨255, saturation⟩ = convertHStoRGB ⟨254, saturation⟩) ∧
      (∀ saturation hue hue', Within 1 (convertHStoRGB ⟨hue, saturation⟩).sum
        (convertHStoRGB ⟨hue', saturation⟩).sum) ∧
      ∀ colorHS : HueSat, clampHue colorHS.hue / hueSectorSize + 1 < rgbNodes.length ∧
        ∀ ch, (convertHStoRGB colorHS).channel ch = UInt8.ofInt (beforeCast colorHS ch) ∧
          0 ≤ beforeCast colorHS ch ∧ beforeCast colorHS ch ≤ 255 := by
  refine ⟨fun hue => ?_, fun hue hue' h dev ch => ?_, fun _ => rfl, fun saturation hue hue' => ?_,
    fun colorHS => ⟨sector_lt colorHS.hue, fun ch => ⟨?_, beforeCast_range colorHS ch⟩⟩⟩
  · rw [lastColours_of_sent (head_sent_showHue linear w hue), List.length_map,
      Vector.length_toList, sent_showHue, List.length_cons]
    exact ⟨rfl, rfl⟩
  · rw [decoded_showHue, decoded_showHue]
    exact gammaCorrection_within (by omega) (convertHStoRGB_within h _ ch) _
  · obtain ⟨hle, hge⟩ := sum_convertHStoRGB hue saturation
    obtain ⟨hle', hge'⟩ := sum_convertHStoRGB hue' saturation
    constructor <;> omega
  · exact convertHStoRGB_channel colorHS ch

/-- The wheel closes: the first hue follows the last. -/
example : Neighbours 254 0 ∧ Neighbours 84 85 ∧ ¬ Neighbours 0 2 := by decide

end Strip

end MatterStrip
