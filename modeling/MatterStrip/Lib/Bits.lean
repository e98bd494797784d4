import Mathlib.Tactic.Ring
import Mathlib.Tactic.Common

/-!
Numbers as words of bits, most significant bit first, and cutting a word into blocks of equal
length.

`msbBits w n` is the order in which a shift register sends the low `w` bits of `n`. A number put
together by shifting and adding (`acc * 2 ^ k + v`) sends the bits of `acc` and then those of `v`
(`msbBits_shift_add`), which is what a shift-and-accumulate loop needs; `blocks_flatMap` says that
a code whose words all have length `k` is cut apart again by blocks of length `k`.
-/

namespace MatterStrip.Lib

/-! ### Bits, most significant first -/

/-- The low `w` bits of `n`, most significant first. -/
def msbBits : ℕ → ℕ → List Bool
  | 0, _ => []
  | w + 1, n => n.testBit w :: msbBits w n

/-- The number whose bits, most significant first, are `l`. -/
def ofMsbBits (l : List Bool) : ℕ := l.foldl (fun acc b => 2 * acc + b.toNat) 0

@[simp] lemma length_msbBits (w n : ℕ) : (msbBits w n).length = w := by
  induction w with
  | zero => rfl
  | succ w ih => simp [msbBits, ih]

/-- Only the low `w` bits matter. -/
lemma msbBits_congr {w m n : ℕ} (h : ∀ i < w, m.testBit i = n.testBit i) :
    msbBits w m = msbBits w n := by
  induction w with
  | zero => rfl
  | succ w ih =>
    simp only [msbBits]
    rw [h w (by omega), ih fun i hi => h i (by omega)]

lemma msbBits_mod (w n : ℕ) : msbBits w (n % 2 ^ w) = msbBits w n :=
  msbBits_congr fun i hi => by rw [Nat.testBit_mod_two_pow]; simp [hi]

/-- A word of `v + w` bits is its high `v` bits and then its low `w` bits. -/
theorem msbBits_add (v w n : ℕ) : msbBits (v + w) n = msbBits v (n / 2 ^ w) ++ msbBits w n := by
  induction v with
  | zero => simp [msbBits]
  | succ v ih =>
    rw [show v + 1 + w = v + w + 1 by omega]
    simp only [msbBits, List.cons_append]
    rw [ih, Nat.testBit_div_two_pow]

/-- **Shift and add.** Adding a `w`-bit number into the gap left by a shift appends its bits. -/
theorem msbBits_shift_add (v w acc n : ℕ) (hn : n < 2 ^ w) :
    msbBits (v + w) (acc * 2 ^ w + n) = msbBits v acc ++ msbBits w n := by
  have hpos : 0 < 2 ^ w := Nat.two_pow_pos w
  have hdiv : (acc * 2 ^ w + n) / 2 ^ w = acc := by
    rw [Nat.add_comm, Nat.add_mul_div_right _ _ hpos, Nat.div_eq_of_lt hn, Nat.zero_add]
  have hmod : (acc * 2 ^ w + n) % 2 ^ w = n := by
    rw [Nat.add_comm, Nat.add_mul_mod_self_right, Nat.mod_eq_of_lt hn]
  rw [msbBits_add, hdiv, ← msbBits_mod w (acc * 2 ^ w + n), hmod]

lemma ofMsbBits_append_singleton (l : List Bool) (b : Bool) :
    ofMsbBits (l ++ [b]) = 2 * ofMsbBits l + b.toNat := by simp [ofMsbBits]

/-- Reading a word back gives the number, cut to the width of the word. -/
theorem ofMsbBits_msbBits (w n : ℕ) : ofMsbBits (msbBits w n) = n % 2 ^ w := by
  induction w generalizing n with
  | zero => simp [msbBits, ofMsbBits, Nat.mod_one]
  | succ w ih =>
    have hlast : msbBits 1 n = [n.testBit 0] := rfl
    rw [msbBits_add w 1 n, hlast, ofMsbBits_append_singleton, ih, pow_one]
    have hbit : (n.testBit 0).toNat = n % 2 := by
      rw [Nat.testBit_zero]
      rcases Nat.mod_two_eq_zero_or_one n with h | h <;> simp [h]
    rw [hbit, pow_succ, Nat.mul_comm (2 ^ w) 2, Nat.mod_mul]
    ring

lemma ofMsbBits_byte (c : UInt8) : UInt8.ofNat (ofMsbBits (msbBits 8 c.toNat)) = c := by
  rw [ofMsbBits_msbBits, Nat.mod_eq_of_lt c.toNat_lt]
  exact UInt8.ofNat_toNat

/-! ### Blocks of equal length -/

variable {β γ : Type*}

/-- The consecutive blocks of length `k` of a list; a shorter rest is dropped. -/
def blocks (k : ℕ) (l : List γ) : List (List γ) :=
  (List.range (l.length / k)).map fun i => (l.drop (k * i)).take k

lemma blocks_nil (k : ℕ) : blocks k ([] : List γ) = [] := by simp [blocks]

lemma blocks_append {k : ℕ} (hk : 0 < k) (b l : List γ) (hb : b.length = k) :
    blocks k (b ++ l) = b :: blocks k l := by
  have hlen : (b ++ l).length / k = l.length / k + 1 := by
    rw [List.length_append, hb, Nat.add_comm, Nat.add_div_right _ hk]
  unfold blocks
  rw [hlen, List.range_succ_eq_map, List.map_cons, List.map_map]
  congr 1
  · rw [Nat.mul_zero, List.drop_zero, List.take_left' hb]
  · refine List.map_congr_left fun i _ => ?_
    have hdrop : k * (i + 1) = b.length + k * i := by rw [hb]; ring
    simp only [Function.comp_apply, Nat.succ_eq_add_one]
    rw [hdrop, ← List.drop_drop, List.drop_left]

/-- **A code of constant length is cut apart by blocks.** -/
theorem blocks_flatMap {k : ℕ} (hk : 0 < k) (code : β → List γ)
    (hcode : ∀ b, (code b).length = k) (l : List β) : blocks k (l.flatMap code) = l.map code := by
  induction l with
  | nil => exact blocks_nil k
  | cons b l ih => rw [List.flatMap_cons, blocks_append hk _ _ (hcode b), ih, List.map_cons]

/-- The same code, decoded block by block. -/
theorem map_blocks_flatMap {k : ℕ} (hk : 0 < k) (code : β → List γ)
    (hcode : ∀ b, (code b).length = k) (decode : List γ → β) (hdec : ∀ b, decode (code b) = b)
    (l : List β) : (blocks k (l.flatMap code)).map decode = l := by
  rw [blocks_flatMap hk code hcode, List.map_map]
  conv_rhs => rw [← List.map_id l]
  exact List.map_congr_left fun b _ => hdec b

/-- A list of lists of length `k`, joined, has `k` times as many entries. -/
lemma length_flatMap_const {k : ℕ} (code : β → List γ) (hcode : ∀ b, (code b).length = k)
    (l : List β) : (l.flatMap code).length = k * l.length := by
  induction l with
  | nil => simp
  | cons b l ih =>
    rw [List.flatMap_cons, List.length_append, ih, hcode, List.length_cons]
    ring

end MatterStrip.Lib
