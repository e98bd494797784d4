import MatterStrip.Strip.Distinct
import MatterStrip.Strip.Healed

/-!
What the devices can get to see, wherever the handler task is preempted.

A call that falls into a pass may leave a frame torn: some devices show the colour of before the
call, some that of after it. But each device is encoded in one step, and the encoding starts anew in
each pass, so that a frame is always a whole number of colours, each of which the controller held at
some time (`Made`). On the wire it can be read by the lengths of its pulses alone.
-/

namespace MatterStrip

open Lib

/-! ### The pulses on the wire -/

/-- The lengths of the runs of `level` in a stream of bits, each ended by a bit of the other level;
`k` bits of the first run are already past. -/
def runsOf (level : Bool) : ℕ → List Bool → List ℕ
  | _, [] => []
  | k, b :: bits =>
    if b = level then runsOf level (k + 1) bits
    else if k = 0 then runsOf level 0 bits
    else k :: runsOf level 0 bits

/-- A high pulse of two bits stands for 1, and one of one bit for 0. -/
lemma runsOf_true_symbols (bits : List Bool) :
    runsOf true 0 (bits.flatMap symbol) = bits.map fun b => if b then 2 else 1 := by
  induction bits with
  | nil => rfl
  | cons b bits ih =>
    rw [List.flatMap_cons, List.map_cons, ← ih]
    cases b <;> rfl

/-- Between two pulses the line is low for two bits at most. -/
lemma runsOf_false_symbols (bits : List Bool) {k : ℕ} (hk : k ≤ 2) :
    ∀ r ∈ runsOf false k (bits.flatMap symbol), r ≤ 2 := by
  induction bits generalizing k with
  | nil => simp [runsOf]
  | cons b bits ih =>
    intro r hr
    rw [List.flatMap_cons] at hr
    cases b with
    | true =>
      simp only [symbol, List.cons_append, List.nil_append, runsOf] at hr
      rcases Nat.eq_zero_or_pos k with rfl | hpos
      · exact ih (k := 1) (by omega) r (by simpa using hr)
      · have hne : k ≠ 0 := by omega
        simp only [hne, Bool.true_eq_false, if_false, if_true, List.mem_cons] at hr
        rcases hr with rfl | hr
        · exact hk
        · exact ih (k := 1) (by omega) r hr
    | false =>
      simp only [symbol, List.cons_append, List.nil_append, runsOf] at hr
      rcases Nat.eq_zero_or_pos k with rfl | hpos
      · exact ih (k := 2) (by omega) r (by simpa using hr)
      · have hne : k ≠ 0 := by omega
        simp only [hne, Bool.true_eq_false, if_false, if_true, List.mem_cons] at hr
        rcases hr with rfl | hr
        · exact hk
        · exact ih (k := 2) (by omega) r hr

/-! ### The colours of a frame -/

/-- The bytes of colours that are put at their level already. -/
def pulsesOf (colours : List RGB) : List UInt8 := colours.flatMap RGB.pulses

lemma frame_full (colours : List RGB) : frame 255 colours = pulsesOf colours := by
  unfold frame pulsesOf
  simp only [RGB.atLevel_full]

lemma decodeFrame_pulsesOf (colours : List RGB) : decodeFrame (pulsesOf colours) = colours := by
  rw [← frame_full, decodeFrame_frame]
  simp only [RGB.atLevel_full, List.map_id']

lemma wireBits_pulsesOf (colours : List RGB) :
    wireBits (pulsesOf colours) = (colours.flatMap fun c => wireBits c.grb).flatMap symbol := by
  rw [← frame_full, wireBits_frame]
  simp only [RGB.atLevel_full]

/-- The level takes away from every channel. -/
lemma RGB.sum_atLevel_le (c : RGB) (level : UInt8) : (c.atLevel level).sum ≤ c.sum := by
  have hR := UInt8.le_iff_toNat_le.1 (gammaCorrection_le c.R level)
  have hG := UInt8.le_iff_toNat_le.1 (gammaCorrection_le c.G level)
  have hB := UInt8.le_iff_toNat_le.1 (gammaCorrection_le c.B level)
  simp only [RGB.sum, RGB.atLevel]
  omega

/-- The channels of a hue and a saturation add up to less than half of what they could. -/
lemma sum_convertHStoRGB_le (c : HueSat) : (convertHStoRGB c).sum ≤ 382 := by
  have hsum := (sum_convertHStoRGB c.hue c.saturation).1
  have hsat := saturation_le c
  have hc : (convertHStoRGB ⟨c.hue, c.saturation⟩).sum = (convertHStoRGB c).sum := rfl
  omega

namespace Transmitting

variable {n : ℕ} {linear : UInt16 → ℚ} {s t : Transmitting n} {a : TransmitAct}
  {buffer : Memory UInt8} {log : List (Transmitting n × TransmitAct)}

/-- The colour that the controller would give to every device now. -/
def colour (s : Transmitting n) : RGB :=
  (convertHStoRGB s.strip.ctl.currentColorHS).atLevel s.strip.ctl.currentLevel

/-- The bytes are those of `k` colours, each of which the controller held in some state of the
log. -/
def Made (log : List (Transmitting n × TransmitAct)) (k : ℕ) (bytes : List UInt8) : Prop :=
  ∃ colours : List RGB, colours.length = k ∧ bytes = pulsesOf colours ∧
    ∀ c ∈ colours, ∃ p ∈ log, c = p.1.colour

lemma made_nil : Made log 0 [] := ⟨[], rfl, rfl, by simp⟩

lemma Made.mono {k : ℕ} {bytes : List UInt8} (h : Made log k bytes) (p : Transmitting n × TransmitAct) :
    Made (log ++ [p]) k bytes := by
  obtain ⟨colours, hlen, hbytes, hheld⟩ := h
  refine ⟨colours, hlen, hbytes, fun c hc => ?_⟩
  obtain ⟨q, hq, hcolour⟩ := hheld c hc
  exact ⟨q, List.mem_append_left _ hq, hcolour⟩

/-- One more device is encoded. -/
lemma Made.encode {k : ℕ} {bytes : List UInt8} (h : Made log k bytes) (s : Transmitting n)
    (a : TransmitAct) : Made (log ++ [(s, a)]) (k + 1) (bytes ++ s.colour.pulses) := by
  obtain ⟨colours, hlen, rfl, hheld⟩ := h.mono (s, a)
  refine ⟨colours ++ [s.colour], by simp [hlen], ?_, fun c hc => ?_⟩
  · unfold pulsesOf
    rw [List.flatMap_append, List.flatMap_singleton]
  · rcases List.mem_append.1 hc with hc | hc
    · exact hheld c hc
    · exact ⟨(s, a), by simp, List.mem_singleton.1 hc⟩

/-- What the buffer holds of the frame under way. -/
def UnderWay (log : List (Transmitting n × TransmitAct)) (s : Transmitting n) : Prop :=
  match s.pc with
  | .encode dev => dev ≤ n ∧ Made log dev (read s.strip.buffer 0 (9 * dev))
  | .send => Made log n (read s.strip.buffer 0 (9 * n))
  | _ => True

/-- Encoding a device appends its pulses, whatever the part before it is. -/
lemma read_encode_append (s : Transmitting n) {dev : ℕ} (hdev : dev < n) :
    read (applyStores s.strip.buffer (RGBToPulses (0 + dev * ws2812DevSize)
      s.strip.ctl.bufferRGB[dev] s.strip.ctl.currentLevel)) 0 (9 * (dev + 1)) =
      read s.strip.buffer 0 (9 * dev) ++
        (s.strip.ctl.bufferRGB[dev].atLevel s.strip.ctl.currentLevel).pulses := by
  have haddr : 0 + dev * ws2812DevSize = 0 + 9 * dev := by rw [ws2812DevSize]; ring
  rw [Nat.mul_succ, read_add, read_encode s (le_refl dev) hdev, RGBToPulses_eq_block, haddr]
  congr 1
  exact read_applyStores_block _ _ (RGB.pulses _)

/-- In every state all devices have the colour of the registers. -/
lemma bufferRGB_eq {spec : LastWriter} (h : Holds s.strip.ctl spec) {dev : ℕ} (hdev : dev < n) :
    s.strip.ctl.bufferRGB[dev].atLevel s.strip.ctl.currentLevel = s.colour := by
  have hbuffer : s.strip.ctl.bufferRGB =
      Vector.replicate n (convertHStoRGB s.strip.ctl.currentColorHS) := by rw [h.buffer, h.colour]
  simp only [hbuffer, Vector.getElem_replicate, colour]

/-- **A step keeps the frames made of colours that were held.** -/
lemma made_step {spec : LastWriter} (hholds : Holds s.strip.ctl spec)
    (hsent : ∀ bytes ∈ s.strip.sent, Made log n bytes) (hway : UnderWay log s)
    (hstep : step linear s a = some t) :
    (∀ bytes ∈ t.strip.sent, Made (log ++ [(s, a)]) n bytes) ∧ UnderWay (log ++ [(s, a)]) t := by
  have hsent' : ∀ bytes ∈ s.strip.sent, Made (log ++ [(s, a)]) n bytes :=
    fun bytes hbytes => (hsent bytes hbytes).mono _
  cases a with
  | call op =>
    obtain rfl : _ = t := Option.some.inj hstep
    refine ⟨hsent', ?_⟩
    obtain ⟨pc, strip, switched⟩ := s
    cases pc with
    | encode dev => exact ⟨hway.1, hway.2.mono _⟩
    | send => exact Made.mono hway _
    | _ => trivial
  | handler =>
    obtain rfl : _ = t := Option.some.inj hstep
    obtain ⟨pc, strip, switched⟩ := s
    cases pc with
    | verifyLevel => exact ⟨hsent', trivial⟩
    | testRequest =>
      refine ⟨hsent', ?_⟩
      cases hreq : strip.ctl.transmitRequest with
      | true =>
        simp only [handlerStep, hreq, if_true, UnderWay]
        exact ⟨Nat.zero_le n, made_nil⟩
      | false => simp [handlerStep, hreq, UnderWay]
    | encode dev =>
      by_cases hdev : dev < n
      · have hmade := Made.encode hway.2 ⟨.encode dev, strip, switched⟩ .handler
        rw [← bufferRGB_eq hholds hdev, ← read_encode_append _ hdev] at hmade
        simp only [handlerStep, dif_pos hdev]
        exact ⟨hsent', hdev, hmade⟩
      · simp only [handlerStep, dif_neg hdev]
        obtain ⟨hle, hmade⟩ := hway
        obtain rfl : dev = n := by omega
        exact ⟨hsent', hmade.mono _⟩
    | send =>
      refine ⟨?_, trivial⟩
      intro bytes hbytes
      rcases List.mem_cons.1 hbytes with rfl | hbytes
      · exact Made.mono hway _
      · exact hsent' bytes hbytes
    | clearRequest => exact ⟨hsent', trivial⟩
    | delay => exact ⟨hsent', trivial⟩

/-- **Every frame is well formed, wherever the handler is preempted.** Each frame that a run ever
sends, torn or not, decodes to one colour for each device, and each of these is a colour that the
controller held in some state of the run; the lengths of its high pulses alone tell their bits, and
no low pulse inside it is longer than two bits; and the channels of a device add up to at most 382 of
the 765 that they could. -/
theorem sent_well_formed (linear : UInt16 → ℚ) (n : ℕ) (buffer : Memory UInt8)
    (log : List (Transmitting n × TransmitAct)) (t : Transmitting n)
    (hrun : Run (step linear) (init n buffer) log t) :
    ∀ bytes ∈ t.strip.sent, (decodeFrame bytes).length = n ∧
      (∀ c ∈ decodeFrame bytes, (∃ p ∈ log, c = p.1.colour) ∧ c.sum ≤ 382) ∧
      runsOf true 0 (wireBits bytes) =
        ((decodeFrame bytes).flatMap fun c => wireBits c.grb).map (fun b => if b then 2 else 1) ∧
      ∀ r ∈ runsOf false 0 (wireBits bytes), r ≤ 2 := by
  have hJ : (∃ spec, Holds t.strip.ctl spec) ∧ (∀ bytes ∈ t.strip.sent, Made log n bytes) ∧
      UnderWay log t := by
    refine Run.history (J := fun log t => (∃ spec, Holds t.strip.ctl spec) ∧
      (∀ bytes ∈ t.strip.sent, Made log n bytes) ∧ UnderWay log t) ?_ ?_ hrun
    · exact ⟨⟨_, (refines_init buffer).holds⟩, by simp [init, Strip.init], trivial⟩
    · rintro log s a u ⟨⟨spec, hholds⟩, hsent, hway⟩ hstep
      refine ⟨?_, made_step hholds hsent hway hstep⟩
      cases a with
      | handler =>
        obtain rfl : _ = u := Option.some.inj hstep
        exact ⟨spec, holds_handlerStep hholds⟩
      | call op =>
        obtain rfl : _ = u := Option.some.inj hstep
        exact ⟨_, hholds.call linear op⟩
  intro bytes hbytes
  obtain ⟨colours, hlen, rfl, hheld⟩ := hJ.2.1 bytes hbytes
  rw [decodeFrame_pulsesOf, wireBits_pulsesOf]
  refine ⟨hlen, fun c hc => ⟨hheld c hc, ?_⟩, runsOf_true_symbols _,
    runsOf_false_symbols _ (by omega)⟩
  obtain ⟨p, -, rfl⟩ := hheld c hc
  exact (RGB.sum_atLevel_le _ _).trans (sum_convertHStoRGB_le _)

/-- Two devices, turned green when one of them is encoded already. -/
theorem sent_well_formed_setHue :
    ∃ log t, Run (step linearExact) (init 2 fun _ => 0) log t ∧
      log.map Prod.snd = [.call (.turnOnOff true), .call (.setSaturation 255), .handler, .handler,
        .handler, .call (.setHue 85), .handler, .handler, .handler, .handler] ∧
      t.strip.sent.length = 1 ∧ ∀ bytes ∈ t.strip.sent,
        (decodeFrame bytes).length = 2 ∧ ∀ c ∈ decodeFrame bytes, c.sum ≤ 382 := by
  obtain ⟨t, ht, hsent⟩ : ∃ t, exec (step linearExact) (init 2 fun _ => 0)
      [.call (.turnOnOff true), .call (.setSaturation 255), .handler, .handler, .handler,
        .call (.setHue 85), .handler, .handler, .handler, .handler] = some t ∧
        t.strip.sent.length = 1 := ⟨_, rfl, rfl⟩
  refine ⟨_, t, run_execLog ht, map_snd_execLog ht, hsent, fun bytes hbytes => ?_⟩
  obtain ⟨hlen, hcolours, -⟩ := sent_well_formed linearExact 2 (fun _ => 0) _ t (run_execLog ht)
    bytes hbytes
  exact ⟨hlen, fun c hc => (hcolours c hc).2⟩

end Transmitting

end MatterStrip
