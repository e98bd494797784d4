import MatterStrip.Strip.LastWriter
import MatterStrip.Strip.Wheel

/-!
What a frame tells of the colour that it shows.

At full level a frame carries the colour of `convertHStoRGB` unchanged. The channel that is off in
the sector of the hue is at the floor, which tells the saturation but for its last bit. The other two
tell the hue, as long as the saturation scales steps of 3 to steps of at least 1: from 85 on all 255
hues show different colours, and below some do not.
-/

namespace MatterStrip

open Lib

/-! ### The channels -/

/-- Steps of 3 survive a saturation of 85. -/
lemma shade_lt {b c s : ℕ} (h : b + 3 ≤ c) (hs : 85 ≤ s) : shade b s < shade c s := by
  have hmul : b * s + 255 ≤ c * s :=
    calc b * s + 255 ≤ b * s + 3 * s := by omega
      _ = (b + 3) * s := by ring
      _ ≤ c * s := Nat.mul_le_mul_right s h
  have hdiv : (b * s + 255) / 255 ≤ c * s / 255 := Nat.div_le_div_right hmul
  rw [Nat.add_div_right _ (by omega)] at hdiv
  unfold shade
  omega

lemma floor_le_shade (b s : ℕ) : (255 - s) / 2 ≤ shade b s := Nat.le_add_left _ _

/-- A channel moves in steps of 3. -/
lemma three_dvd_hueChannel {p : ℕ} (hp : p < 255) (ch : Channel) : 3 ∣ hueChannel p ch := by
  rcases hueChannel_cases hp with ⟨h, heq⟩ | ⟨h, h', heq⟩ | ⟨h, heq⟩ <;>
    cases ch <;> simp only [hueChannel, heq] <;> omega

/-- The three channels tell the position. -/
lemma position_of_hueChannel {p q : ℕ} (hp : p < 255) (hq : q < 255)
    (h : ∀ ch, hueChannel p ch = hueChannel q ch) : p = q := by
  have hred := h .red
  have hgreen := h .green
  have hblue := h .blue
  rcases hueChannel_cases hp with ⟨hp', heq⟩ | ⟨hp', hp'', heq⟩ | ⟨hp', heq⟩ <;>
    rcases hueChannel_cases hq with ⟨hq', qeq⟩ | ⟨hq', hq'', qeq⟩ | ⟨hq', qeq⟩ <;>
    simp only [hueChannel, heq, qeq] at hred hgreen hblue <;> omega

/-- In every sector one channel is off. -/
lemma exists_channel_off {p : ℕ} (hp : p < 255) : ∃ ch, hueChannel p ch = 0 := by
  rcases hueChannel_cases hp with ⟨h, heq⟩ | ⟨h, h', heq⟩ | ⟨h, heq⟩
  · exact ⟨.blue, by simp only [hueChannel, heq]⟩
  · exact ⟨.red, by simp only [hueChannel, heq]⟩
  · exact ⟨.green, by simp only [hueChannel, heq]⟩

/-! ### The colours -/

/-- The floor of one colour is no higher than that of another that looks the same. -/
lemma floor_le_of_eq {c d : HueSat} (h : convertHStoRGB c = convertHStoRGB d) :
    (255 - d.saturation.toNat) / 2 ≤ (255 - c.saturation.toNat) / 2 := by
  obtain ⟨ch, hoff⟩ := exists_channel_off (huePosition_lt c.hue)
  have hc := convertHStoRGB_toNat c ch
  have hd := convertHStoRGB_toNat d ch
  have hfloor : shade 0 c.saturation.toNat = (255 - c.saturation.toNat) / 2 := by simp [shade]
  rw [hoff, hfloor, h, hd] at hc
  rw [← hc]
  exact floor_le_shade _ _

/-- **A colour tells its saturation**, but for the last bit. -/
lemma saturation_within_of_eq {c d : HueSat} (h : convertHStoRGB c = convertHStoRGB d) :
    Within 1 c.saturation.toNat d.saturation.toNat := by
  have hcd := floor_le_of_eq h
  have hdc := floor_le_of_eq h.symm
  have hc := saturation_le c
  have hd := saturation_le d
  unfold Within
  omega

/-- From a saturation of 85 on, a colour tells its hue. -/
lemma position_of_eq {hue hue' saturation : UInt8} (hs : 85 ≤ saturation.toNat)
    (h : convertHStoRGB ⟨hue, saturation⟩ = convertHStoRGB ⟨hue', saturation⟩) :
    huePosition hue = huePosition hue' := by
  refine position_of_hueChannel (huePosition_lt hue) (huePosition_lt hue') fun ch => ?_
  have hshade := (convertHStoRGB_toNat ⟨hue, saturation⟩ ch).symm.trans
    ((congrArg (fun c : RGB => (c.channel ch).toNat) h).trans
      (convertHStoRGB_toNat ⟨hue', saturation⟩ ch))
  obtain ⟨k, hk⟩ := three_dvd_hueChannel (huePosition_lt hue) ch
  obtain ⟨l, hl⟩ := three_dvd_hueChannel (huePosition_lt hue') ch
  rcases Nat.lt_trichotomy k l with hlt | rfl | hlt
  · have hne : shade (hueChannel (huePosition hue) ch) saturation.toNat <
        shade (hueChannel (huePosition hue') ch) saturation.toNat := shade_lt (by omega) hs
    exact absurd hshade hne.ne
  · rw [hk, hl]
  · have hne : shade (hueChannel (huePosition hue') ch) saturation.toNat <
        shade (hueChannel (huePosition hue) ch) saturation.toNat := shade_lt (by omega) hs
    exact absurd hshade hne.ne'

/-- The channels tell the colour. -/
lemma RGB.ext_channel {c d : RGB} (h : ∀ ch, (c.channel ch).toNat = (d.channel ch).toNat) : c = d := by
  obtain ⟨R, G, B⟩ := c
  obtain ⟨R', G', B'⟩ := d
  obtain rfl : R = R' := UInt8.toNat_inj.1 (h .red)
  obtain rfl : G = G' := UInt8.toNat_inj.1 (h .green)
  obtain rfl : B = B' := UInt8.toNat_inj.1 (h .blue)
  rfl

/-- Below it, the hues 84 and 86, on the two sides of green, look the same. -/
lemma convertHStoRGB_84_86 {saturation : UInt8} (hs : saturation.toNat < 85) :
    convertHStoRGB ⟨84, saturation⟩ = convertHStoRGB ⟨86, saturation⟩ := by
  have hsmall : shade 3 saturation.toNat = shade 0 saturation.toNat := by
    unfold shade
    omega
  refine RGB.ext_channel fun ch => ?_
  rw [convertHStoRGB_toNat, convertHStoRGB_toNat]
  cases ch with
  | red =>
    rw [show hueChannel (huePosition 84) .red = 3 by decide,
      show hueChannel (huePosition 86) .red = 0 by decide, hsmall]
  | green =>
    rw [show hueChannel (huePosition 84) .green = 252 by decide,
      show hueChannel (huePosition 86) .green = 252 by decide]
  | blue =>
    rw [show hueChannel (huePosition 84) .blue = 0 by decide,
      show hueChannel (huePosition 86) .blue = 3 by decide, hsmall]

/-! ### The frames -/

lemma RGB.atLevel_full (c : RGB) : c.atLevel 255 = c := by
  obtain ⟨R, G, B⟩ := c
  simp only [RGB.atLevel, gammaCorrection_full]

namespace LastWriter

/-- The registers of a strip that is on, at full level. -/
def full (hue saturation : UInt8) : LastWriter := ⟨true, 255, hue, saturation⟩

lemma decodeFrame_full (n : ℕ) (hue saturation : UInt8) :
    decodeFrame ((full hue saturation).shown n) =
      List.replicate n (convertHStoRGB ⟨hue, saturation⟩) := by
  rw [shown, decodeFrame_frame, List.map_replicate]
  exact congrArg (List.replicate n) (RGB.atLevel_full _)

/-- At full level frames of at least one device are equal exactly if the colours are. -/
lemma shown_full_eq_iff (n : ℕ) (hue hue' saturation saturation' : UInt8) :
    (full hue saturation).shown (n + 1) = (full hue' saturation').shown (n + 1) ↔
      convertHStoRGB ⟨hue, saturation⟩ = convertHStoRGB ⟨hue', saturation'⟩ := by
  constructor
  · intro h
    have hdec := congrArg decodeFrame h
    rw [decodeFrame_full, decodeFrame_full, List.replicate_succ, List.replicate_succ] at hdec
    exact (List.cons.inj hdec).1
  · intro h
    exact congrArg (fun c => frame 255 (List.replicate (n + 1) c)) h

/-- **What a frame at full level tells.** Two colours that send the same frame differ by at most 1 in
their saturation; and different hues send different frames exactly from a saturation of 85 on. -/
theorem frame_tells_colour (n : ℕ) :
    (∀ hue hue' saturation saturation',
      (full hue saturation).shown (n + 1) = (full hue' saturation').shown (n + 1) →
        Within 1 saturation.toNat saturation'.toNat) ∧
      ∀ saturation, (∀ hue hue',
        (full hue saturation).shown (n + 1) = (full hue' saturation).shown (n + 1) →
          huePosition hue = huePosition hue') ↔ 85 ≤ saturation.toNat := by
  constructor
  · intro hue hue' saturation saturation' h
    exact saturation_within_of_eq ((shown_full_eq_iff n _ _ _ _).1 h)
  · intro saturation
    constructor
    · intro h
      by_contra hlow
      have hframe := (shown_full_eq_iff n 84 86 saturation saturation).2
        (convertHStoRGB_84_86 (by omega))
      exact absurd (h 84 86 hframe) (by decide)
    · intro hs hue hue' h
      exact position_of_eq hs ((shown_full_eq_iff n _ _ _ _).1 h)

end LastWriter

end MatterStrip
