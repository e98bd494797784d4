import MatterStrip.Strip.Pulses

/-!
The encoding loop of `dataTransmit`, and the frame it leaves in the pulse buffer.

With nine bytes for each device the stores of the loop are the consecutive bytes of one frame
(`encodeLoop_eq_block`), so the buffer holds exactly that frame afterwards. A frame is decoded
the way a strip reads it: most significant bit first, three bits for a symbol, eight symbols for a
byte, three bytes (green, red, blue) for a device; decoding gives the colours at their level
(`decodeFrame_frame`).
-/

namespace MatterStrip

open Lib

/-- `WS2812_DEV_SIZE`, number of pulse-coded bytes for each WS2812 device -/
def ws2812DevSize : ℕ := 9

/-- The encoding loop of `StripController::dataTransmit`, as its stores. The number of devices is
a `uint16_t`, so the counter `dev`, of the same type, does not wrap. -/
def encodeLoop {n : ℕ} (pBuffer devSize : ℕ) (level : UInt8) (bufferRGB : Vector RGB n) :
    List (ℕ × UInt8) :=
  bufferRGB.toList.zipIdx.flatMap fun (c, dev) => RGBToPulses (pBuffer + dev * devSize) c level

/-- The bytes of a frame: the pulses of the colours at the level, device after device. -/
def frame (level : UInt8) (colours : List RGB) : List UInt8 :=
  colours.flatMap fun c => (c.atLevel level).pulses

/-! ### What the loop leaves in the buffer -/

@[simp] lemma length_frame (level : UInt8) (colours : List RGB) :
    (frame level colours).length = 9 * colours.length :=
  length_flatMap_const _ (fun _ => RGB.length_pulses _) colours

lemma zipIdx_stores (pBuffer : ℕ) (level : UInt8) (colours : List RGB) (dev : ℕ) :
    (colours.zipIdx dev).flatMap (fun p => RGBToPulses (pBuffer + p.2 * ws2812DevSize) p.1 level) =
      block (pBuffer + dev * ws2812DevSize) (frame level colours) := by
  induction colours generalizing dev with
  | nil => rfl
  | cons c colours ih =>
    have hnext : pBuffer + (dev + 1) * ws2812DevSize =
        pBuffer + dev * ws2812DevSize + (c.atLevel level).pulses.length := by
      rw [RGB.length_pulses, ws2812DevSize]; ring
    rw [List.zipIdx_cons, List.flatMap_cons, ih, RGBToPulses_eq_block, hnext, ← block_append]
    rfl

/-- **The stores of the loop are the bytes of the frame, one after the other.** -/
theorem encodeLoop_eq_block {n : ℕ} (pBuffer : ℕ) (level : UInt8) (bufferRGB : Vector RGB n) :
    encodeLoop pBuffer ws2812DevSize level bufferRGB =
      block pBuffer (frame level bufferRGB.toList) := by
  have h := zipIdx_stores pBuffer level bufferRGB.toList 0
  rw [Nat.zero_mul, Nat.add_zero] at h
  exact h

theorem read_encodeLoop {n : ℕ} (m : Memory UInt8) (pBuffer : ℕ) (level : UInt8)
    (bufferRGB : Vector RGB n) :
    read (applyStores m (encodeLoop pBuffer ws2812DevSize level bufferRGB)) pBuffer
        (ws2812DevSize * n) = frame level bufferRGB.toList := by
  have hlen : ws2812DevSize * n = (frame level bufferRGB.toList).length := by
    rw [length_frame, Vector.length_toList, ws2812DevSize]
  rw [encodeLoop_eq_block, hlen, read_applyStores_block]

/-! ### Reading a frame the way the strip does -/

/-- The bits of a frame as the SPI driver sends them (`spidrvBitOrderMsbFirst`). -/
def wireBits (bytes : List UInt8) : List Bool := bytes.flatMap fun b => msbBits 8 b.toNat

/-- The bits that the symbols of a frame stand for. -/
def dataBits (bytes : List UInt8) : List Bool := (blocks 3 (wireBits bytes)).map decodeSymbol

/-- A device takes its three bytes as green, red, blue. -/
def deviceColour : List UInt8 → RGB
  | [g, r, b] => ⟨r, g, b⟩
  | _ => default

/-- The colours that the devices of the strip take out of a frame. -/
def decodeFrame (bytes : List UInt8) : List RGB :=
  (blocks 3 ((blocks 8 (dataBits bytes)).map fun l => UInt8.ofNat (ofMsbBits l))).map deviceColour

def RGB.grb (c : RGB) : List UInt8 := [c.G, c.R, c.B]

lemma deviceColour_grb (c : RGB) : deviceColour c.grb = c := rfl

lemma wireBits_pulses (c : RGB) : wireBits c.pulses = (wireBits c.grb).flatMap symbol := by
  simp only [wireBits, RGB.pulses, RGB.grb, List.flatMap_append, List.flatMap_cons,
    List.flatMap_nil, List.append_nil, bits_pulseBytes, List.append_assoc]

/-- **A frame on the wire is the symbols of the colours at their level.** -/
theorem wireBits_frame (level : UInt8) (colours : List RGB) :
    wireBits (frame level colours) =
      (colours.flatMap fun c => wireBits (c.atLevel level).grb).flatMap symbol := by
  induction colours with
  | nil => rfl
  | cons c colours ih =>
    have hcons : frame level (c :: colours) =
        (c.atLevel level).pulses ++ frame level colours := rfl
    rw [hcons, wireBits, List.flatMap_append, ← wireBits, ← wireBits, ih, wireBits_pulses,
      List.flatMap_cons, List.flatMap_append]

lemma dataBits_frame (level : UInt8) (colours : List RGB) :
    dataBits (frame level colours) = colours.flatMap fun c => wireBits (c.atLevel level).grb := by
  rw [dataBits, wireBits_frame]
  exact map_blocks_flatMap (by omega) symbol length_symbol decodeSymbol decodeSymbol_symbol _

/-- **Decoding a frame gives the colours at their level.** -/
theorem decodeFrame_frame (level : UInt8) (colours : List RGB) :
    decodeFrame (frame level colours) = colours.map fun c => c.atLevel level := by
  have hbytes : (colours.flatMap fun c => wireBits (c.atLevel level).grb) =
      (colours.flatMap fun c => (c.atLevel level).grb).flatMap fun b => msbBits 8 b.toNat :=
    (List.flatMap_assoc ..).symm
  have hgrb : (colours.flatMap fun c => (c.atLevel level).grb) =
      (colours.map fun c => c.atLevel level).flatMap RGB.grb := by rw [List.flatMap_map]
  unfold decodeFrame
  rw [dataBits_frame, hbytes, map_blocks_flatMap (by omega) (fun b : UInt8 => msbBits 8 b.toNat)
    (fun _ => length_msbBits _ _) _ ofMsbBits_byte, hgrb]
  exact map_blocks_flatMap (by omega) RGB.grb (fun _ => rfl) deviceColour deviceColour_grb _

/-- Frames of different colours differ. -/
theorem frame_ne_of_atLevel_ne {level level' : UInt8} {colours colours' : List RGB}
    (h : (colours.map fun c => c.atLevel level) ≠ colours'.map fun c => c.atLevel level') :
    frame level colours ≠ frame level' colours' := by
  intro heq
  have hdec := congrArg decodeFrame heq
  rw [decodeFrame_frame, decodeFrame_frame] at hdec
  exact h hdec

lemma length_wireBits (bytes : List UInt8) : (wireBits bytes).length = 8 * bytes.length :=
  length_flatMap_const _ (fun _ => length_msbBits _ _) bytes

lemma blocks_wireBits_frame (level : UInt8) (colours : List RGB) :
    blocks 3 (wireBits (frame level colours)) =
      (dataBits (frame level colours)).map symbol := by
  rw [dataBits_frame, wireBits_frame, blocks_flatMap (by omega) symbol length_symbol]

/-- **Wire format round trip.** The encoding loop writes every byte of the pulse buffer and nothing
else; what the buffer sends is 24 symbols for each device, `100` or `110`; they stand for the
green, red and blue bytes of the devices at the level, in order; and neither the previous content
of the memory nor anything but these colours shows in the frame. -/
theorem encodeLoop_round_trip {n : ℕ} (bufferRGB : Vector RGB n) (level : UInt8) (pBuffer : ℕ)
    (m : Memory UInt8) :
    let stores := encodeLoop pBuffer ws2812DevSize level bufferRGB
    let buffer := read (applyStores m stores) pBuffer (9 * n)
    let symbols := blocks 3 (wireBits buffer)
    (∀ a, a ∈ stores.map Prod.fst ↔ pBuffer ≤ a ∧ a < pBuffer + 9 * n) ∧
    (∀ a, ¬ (pBuffer ≤ a ∧ a < pBuffer + 9 * n) → applyStores m stores a = m a) ∧
    symbols.flatten = wireBits buffer ∧ symbols.length = 24 * n ∧
    (∀ sym ∈ symbols, sym = [true, false, false] ∨ sym = [true, true, false]) ∧
    symbols.map decodeSymbol = bufferRGB.toList.flatMap (fun c =>
      msbBits 8 (gammaCorrection c.G level).toNat ++ msbBits 8 (gammaCorrection c.R level).toNat ++
        msbBits 8 (gammaCorrection c.B level).toNat) ∧
    (∀ m' : Memory UInt8, read (applyStores m' stores) pBuffer (9 * n) = buffer) ∧
    ∀ (m' : Memory UInt8) (bufferRGB' : Vector RGB n) (level' : UInt8),
      (bufferRGB.toList.map fun c => c.atLevel level) ≠
        (bufferRGB'.toList.map fun c => c.atLevel level') →
      read (applyStores m' (encodeLoop pBuffer ws2812DevSize level' bufferRGB')) pBuffer (9 * n) ≠
        buffer := by
  have hread : ∀ (m' : Memory UInt8) (v : Vector RGB n) (l : UInt8),
      read (applyStores m' (encodeLoop pBuffer ws2812DevSize l v)) pBuffer (9 * n) =
        frame l v.toList := fun m' v l => read_encodeLoop m' pBuffer l v
  have haddr : ∀ a, a ∈ (encodeLoop pBuffer ws2812DevSize level bufferRGB).map Prod.fst ↔
      pBuffer ≤ a ∧ a < pBuffer + 9 * n := fun a => by
    rw [encodeLoop_eq_block, mem_map_fst_block, length_frame, Vector.length_toList]
  have hdata : dataBits (frame level bufferRGB.toList) = bufferRGB.toList.flatMap (fun c =>
      msbBits 8 (gammaCorrection c.G level).toNat ++ msbBits 8 (gammaCorrection c.R level).toNat ++
        msbBits 8 (gammaCorrection c.B level).toNat) := by
    rw [dataBits_frame]
    refine List.flatMap_congr fun c _ => ?_
    simp [wireBits, RGB.grb, RGB.atLevel]
  simp only [hread]
  refine ⟨haddr, fun a ha => applyStores_of_notMem _ _ (fun h => ha ((haddr a).1 h)), ?_, ?_, ?_,
    hdata, fun _ => trivial, fun _ v l h => (frame_ne_of_atLevel_ne h).symm⟩
  · rw [blocks_wireBits_frame, dataBits_frame, wireBits_frame]
    rfl
  · have hlen := length_wireBits (frame level bufferRGB.toList)
    rw [length_frame, Vector.length_toList] at hlen
    simp only [blocks, List.length_map, List.length_range, hlen]
    omega
  · intro sym hsym
    rw [blocks_wireBits_frame] at hsym
    obtain ⟨b, -, rfl⟩ := List.mem_map.1 hsym
    cases b
    · exact Or.inl rfl
    · exact Or.inr rfl

end MatterStrip
