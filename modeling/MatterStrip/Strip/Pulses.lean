import Mathlib.Data.Nat.Bitwise
import MatterStrip.Lib.Bits
import MatterStrip.Lib.Store
import MatterStrip.Strip.Colour

/-!
From colours to pulses: `byteToPulses` and `RGBToPulses`.

A bit of a colour is sent as three bits, `100` for 0 and `110` for 1. `byteToPulses` shifts the
eight symbols of a byte into a 32-bit word and stores its low 24 bits as three bytes, the first
symbol first (`bits_pulseBytes`); the loop invariant is `pulseLoop_spec`. `RGBToPulses` corrects
the three channels for the level and stores the symbols of green, red and blue.
-/

namespace MatterStrip

open Lib

/-! ### One byte -/

/-- The three bits that stand for a bit on the wire: duty 33% for 0, duty 66% for 1. -/
def symbol (b : Bool) : List Bool := [true, b, false]

def decodeSymbol (sym : List Bool) : Bool := sym = [true, true, false]

/-- The loop body of `byteToPulses` for `bit = 0, …, n - 1`. -/
def pulseLoop (colorData : UInt8) (n : ℕ) : UInt32 :=
  (List.range n).foldl (fun pulseBuffer bit =>
    (pulseBuffer <<< 3) |||
      (if (colorData.toUInt32 <<< UInt32.ofNat bit) &&& 0x80 = 0 then 0x04 else 0x06)) 0

/-- The bytes that `byteToPulses` takes out of `pulseBuffer`, in the big endian order. -/
def pulseBytes (colorData : UInt8) : List UInt8 :=
  let pulseBuffer := pulseLoop colorData 8
  [((pulseBuffer >>> 16) &&& 0xFF).toUInt8, ((pulseBuffer >>> 8) &&& 0xFF).toUInt8,
    (pulseBuffer &&& 0xFF).toUInt8]

/-- `StripController::byteToPulses`, as its stores -/
def byteToPulses (pBuffer : ℕ) (colorData : UInt8) : List (ℕ × UInt8) :=
  let pulseBuffer := pulseLoop colorData 8
  [(pBuffer, ((pulseBuffer >>> 16) &&& 0xFF).toUInt8),
    (pBuffer + 1, ((pulseBuffer >>> 8) &&& 0xFF).toUInt8),
    (pBuffer + 2, (pulseBuffer &&& 0xFF).toUInt8)]

@[simp] lemma length_symbol (b : Bool) : (symbol b).length = 3 := rfl

@[simp] lemma decodeSymbol_symbol (b : Bool) : decodeSymbol (symbol b) = b := by
  cases b <;> rfl

lemma pulseLoop_succ (c : UInt8) (n : ℕ) :
    pulseLoop c (n + 1) = (pulseLoop c n <<< 3) |||
      (if (c.toUInt32 <<< UInt32.ofNat n) &&& 0x80 = 0 then 0x04 else 0x06) := by
  unfold pulseLoop
  rw [List.range_succ, List.foldl_append]
  rfl

/-- The test of the loop reads the bits of the byte from the top. -/
lemma shift_test (c : UInt8) {n : ℕ} (hn : n < 8) :
    ((c.toUInt32 <<< UInt32.ofNat n) &&& 0x80 = 0) ↔ c.toNat.testBit (7 - n) = false := by
  have hc := c.toNat_lt
  have hsmall : c.toNat <<< n < 2 ^ 32 := by
    rw [Nat.shiftLeft_eq]
    calc c.toNat * 2 ^ n ≤ 2 ^ 8 * 2 ^ 8 :=
          Nat.mul_le_mul (by omega) (Nat.pow_le_pow_right (by omega) (by omega))
      _ < 2 ^ 32 := by norm_num
  have hval : ((c.toUInt32 <<< UInt32.ofNat n) &&& 0x80).toNat = c.toNat <<< n &&& 2 ^ 7 := by
    have hmod : n % 32 = n := Nat.mod_eq_of_lt (by omega)
    rw [UInt32.toNat_and, UInt32.toNat_shiftLeft, UInt8.toNat_toUInt32, UInt32.toNat_ofNat',
      Nat.mod_eq_of_lt (show n < 2 ^ 32 by omega), hmod, Nat.mod_eq_of_lt hsmall]
    rfl
  rw [← UInt32.toNat_inj, hval, Nat.and_comm, Nat.two_pow_and, Nat.testBit_shiftLeft]
  have hle : 7 ≥ n := by omega
  cases c.toNat.testBit (7 - n) <;> simp [hle]

/-- What one turn of the loop does to the number in the word, as long as it has not been filled. -/
lemma pulseLoop_step (c : UInt8) {n : ℕ} (hn : n < 8) (hlt : (pulseLoop c n).toNat < 8 ^ n) :
    (pulseLoop c (n + 1)).toNat =
      (pulseLoop c n).toNat * 2 ^ 3 + (if c.toNat.testBit (7 - n) then 6 else 4) := by
  have hpow : 8 ^ n ≤ 8 ^ 7 := Nat.pow_le_pow_right (by omega) (by omega)
  have hshift : ((pulseLoop c n) <<< 3).toNat = (pulseLoop c n).toNat <<< 3 := by
    rw [UInt32.toNat_shiftLeft]
    simp only [UInt32.reduceToNat, Nat.reduceMod]
    rw [Nat.mod_eq_of_lt]
    rw [Nat.shiftLeft_eq]
    omega
  rw [pulseLoop_succ, UInt32.toNat_or, hshift]
  by_cases hb : c.toNat.testBit (7 - n) = true
  · have htest : ¬ ((c.toUInt32 <<< UInt32.ofNat n) &&& 0x80 = 0) := by
      rw [shift_test c hn, hb]; simp
    rw [if_neg htest, if_pos hb, ← Nat.shiftLeft_eq, ← Nat.shiftLeft_add_eq_or_of_lt (by decide)]
    rfl
  · have htest : (c.toUInt32 <<< UInt32.ofNat n) &&& 0x80 = 0 := by
      rw [shift_test c hn]; simpa using hb
    rw [if_pos htest, if_neg hb, ← Nat.shiftLeft_eq, ← Nat.shiftLeft_add_eq_or_of_lt (by decide)]
    rfl

/-- **The loop invariant of `byteToPulses`.** After `n` turns the word holds the symbols of the
`n` top bits of the byte, and nothing else. -/
theorem pulseLoop_spec (c : UInt8) {n : ℕ} (hn : n ≤ 8) :
    (pulseLoop c n).toNat < 8 ^ n ∧
      msbBits (3 * n) (pulseLoop c n).toNat =
        (msbBits n (c.toNat / 2 ^ (8 - n))).flatMap symbol := by
  induction n with
  | zero => exact ⟨Nat.one_pos, rfl⟩
  | succ n ih =>
    obtain ⟨hlt, hbits⟩ := ih (by omega)
    have hstep := pulseLoop_step c (by omega) hlt
    have hexp : 2 ^ (8 - n) = 2 ^ (8 - (n + 1)) * 2 := by
      rw [← pow_succ]; congr 1; omega
    have hlast : msbBits 1 (c.toNat / 2 ^ (8 - (n + 1))) = [c.toNat.testBit (7 - n)] := by
      show [(c.toNat / 2 ^ (8 - (n + 1))).testBit 0] = _
      rw [Nat.testBit_div_two_pow]
      congr 2
      omega
    refine ⟨?_, ?_⟩
    · rw [hstep, pow_succ]
      split <;> omega
    · rw [hstep, Nat.mul_succ, msbBits_add n 1, pow_one, Nat.div_div_eq_div_mul, ← hexp, hlast,
        List.flatMap_append, msbBits_shift_add _ _ _ _ (by split <;> omega), hbits]
      cases c.toNat.testBit (7 - n) <;> rfl

/-- **The three bytes of `byteToPulses`, sent most significant bit first, are the symbols of the
colour byte, most significant bit first.** -/
theorem bits_pulseBytes (c : UInt8) :
    (pulseBytes c).flatMap (fun b => msbBits 8 b.toNat) = (msbBits 8 c.toNat).flatMap symbol := by
  obtain ⟨-, hbits⟩ := pulseLoop_spec c (le_refl 8)
  rw [Nat.sub_self, pow_zero, Nat.div_one] at hbits
  have hmask : ∀ n : ℕ, n &&& 255 = n % 2 ^ 8 := fun n => Nat.and_two_pow_sub_one_eq_mod n 8
  rw [← hbits, show 3 * 8 = 8 + (8 + 8) by rfl, msbBits_add 8 (8 + 8), msbBits_add 8 8]
  simp only [pulseBytes, List.flatMap_cons, List.flatMap_nil, List.append_nil]
  generalize pulseLoop c 8 = w
  simp only [UInt32.toNat_toUInt8, UInt32.toNat_and, UInt32.toNat_shiftRight, UInt32.reduceToNat,
    Nat.reduceMod, hmask, Nat.mod_mod, Nat.shiftRight_eq_div_pow, msbBits_mod, Nat.reduceAdd]

/-! ### The level -/

def maxLevel : ℕ := 255

def maxLevel2 : ℕ := 127

def correctedLevel (level : UInt8) : UInt16 := UInt16.ofNat (level.toNat * level.toNat / maxLevel)

def correctedColorValue (colorValue level : UInt8) : UInt8 :=
  UInt8.ofNat ((colorValue.toNat * (correctedLevel level).toNat + maxLevel2) / maxLevel)

/-- The lambda `gammaCorrection` of `RGBToPulses`; the level it captures and the level it is passed
are the same. -/
def gammaCorrection (colorValue level : UInt8) : UInt8 :=
  if correctedColorValue colorValue level = 0 ∧ colorValue > 0 ∧ level > 0 then 1
  else correctedColorValue colorValue level

/-- The colour that `RGBToPulses` sends for a colour at a level. -/
def RGB.atLevel (c : RGB) (level : UInt8) : RGB :=
  ⟨gammaCorrection c.R level, gammaCorrection c.G level, gammaCorrection c.B level⟩

/-- `StripController::RGBToPulses`, as its stores -/
def RGBToPulses (pBuffer : ℕ) (rgbData : RGB) (level : UInt8) : List (ℕ × UInt8) :=
  byteToPulses pBuffer (gammaCorrection rgbData.G level) ++
    byteToPulses (pBuffer + 3) (gammaCorrection rgbData.R level) ++
    byteToPulses (pBuffer + 6) (gammaCorrection rgbData.B level)

/-- The nine bytes of pulses of a colour: green, red, blue. -/
def RGB.pulses (c : RGB) : List UInt8 := pulseBytes c.G ++ pulseBytes c.R ++ pulseBytes c.B

@[simp] lemma RGB.length_pulses (c : RGB) : c.pulses.length = 9 := rfl

lemma RGBToPulses_eq_block (pBuffer : ℕ) (c : RGB) (level : UInt8) :
    RGBToPulses pBuffer c level = block pBuffer (c.atLevel level).pulses := rfl

lemma gammaCorrection_zero_level (c : UInt8) : gammaCorrection c 0 = 0 := by
  have hlevel : (correctedLevel 0).toNat = 0 := by decide
  unfold gammaCorrection correctedColorValue
  rw [hlevel]
  simp [maxLevel, maxLevel2]

lemma gammaCorrection_zero_color (level : UInt8) : gammaCorrection 0 level = 0 := by
  simp [gammaCorrection, correctedColorValue, maxLevel, maxLevel2]

/-- The floor of 1: what is not black does not go black at a level that is not zero. -/
lemma gammaCorrection_ne_zero {c level : UInt8} (hc : c ≠ 0) (hl : level ≠ 0) :
    gammaCorrection c level ≠ 0 := by
  have hc' : c > 0 := UInt8.pos_iff_ne_zero.2 hc
  have hl' : level > 0 := UInt8.pos_iff_ne_zero.2 hl
  unfold gammaCorrection
  simp only [hc', hl', and_true]
  split <;> simp_all

lemma gammaCorrection_eq_zero_iff {c level : UInt8} :
    gammaCorrection c level = 0 ↔ c = 0 ∨ level = 0 := by
  constructor
  · intro h
    by_contra hne
    exact gammaCorrection_ne_zero (fun hc => hne (Or.inl hc)) (fun hl => hne (Or.inr hl)) h
  · rintro (rfl | rfl)
    · exact gammaCorrection_zero_color _
    · exact gammaCorrection_zero_level _

/-- At level 0 every colour is sent as black. -/
lemma RGB.atLevel_zero (c : RGB) : c.atLevel 0 = ⟨0, 0, 0⟩ := by
  simp only [RGB.atLevel, gammaCorrection_zero_level]

/-- **A colour is sent lit exactly if it is lit and the level is not zero.** -/
theorem RGB.lit_atLevel_iff {c : RGB} {level : UInt8} :
    (c.atLevel level).Lit ↔ c.Lit ∧ level ≠ 0 := by
  simp only [RGB.Lit, RGB.atLevel, Ne, gammaCorrection_eq_zero_iff, not_or]
  tauto

end MatterStrip
