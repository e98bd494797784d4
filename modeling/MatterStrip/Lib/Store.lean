import Mathlib.Logic.Function.Basic
import Mathlib.Tactic.Common

/-!
A memory of cells addressed by numbers, and the stores a program makes into it.

A program that writes through a pointer is described by the list of its stores, in order: the
addresses of the list are the cells it touches, all others keep their content
(`applyStores_of_notMem`), and stores of consecutive cells are read back as they were written,
whatever was there before (`read_applyStores_block`).
-/

namespace MatterStrip.Lib

variable {β : Type*}

/-- A memory: the content of every address. -/
abbrev Memory (β : Type*) := ℕ → β

/-- Carry out stores, in order. -/
def applyStores (m : Memory β) (stores : List (ℕ × β)) : Memory β :=
  stores.foldl (fun m st => Function.update m st.1 st.2) m

/-- The stores that write `bs` to the cells from `p` on. -/
def block : ℕ → List β → List (ℕ × β)
  | _, [] => []
  | p, b :: bs => (p, b) :: block (p + 1) bs

/-- The content of the `n` cells from `p` on. -/
def read (m : Memory β) (p n : ℕ) : List β := (List.range n).map fun i => m (p + i)

lemma applyStores_cons (m : Memory β) (st : ℕ × β) (stores : List (ℕ × β)) :
    applyStores m (st :: stores) = applyStores (Function.update m st.1 st.2) stores := rfl

/-- **The frame rule.** A cell that is not stored to keeps its content. -/
theorem applyStores_of_notMem {a : ℕ} (stores : List (ℕ × β)) (m : Memory β)
    (ha : a ∉ stores.map Prod.fst) : applyStores m stores a = m a := by
  induction stores generalizing m with
  | nil => rfl
  | cons st stores ih =>
    simp only [List.map_cons, List.mem_cons, not_or] at ha
    rw [applyStores_cons, ih _ ha.2, Function.update_of_ne ha.1]

/-! ### Consecutive stores -/

@[simp] lemma length_read (m : Memory β) (p n : ℕ) : (read m p n).length = n := by simp [read]

lemma read_add (m : Memory β) (p k n : ℕ) :
    read m p (k + n) = read m p k ++ read m (p + k) n := by
  simp [read, List.range_add, Function.comp_def, Nat.add_assoc]

lemma block_append (p : ℕ) (bs cs : List β) :
    block p (bs ++ cs) = block p bs ++ block (p + bs.length) cs := by
  induction bs generalizing p with
  | nil => rfl
  | cons b bs ih =>
    simp only [List.cons_append, block, List.length_cons]
    rw [ih, show p + 1 + bs.length = p + (bs.length + 1) by omega]

/-- The addresses of consecutive stores are the cells of the range, each once. -/
theorem map_fst_block (p : ℕ) (bs : List β) :
    (block p bs).map Prod.fst = (List.range bs.length).map (p + ·) := by
  induction bs generalizing p with
  | nil => rfl
  | cons b bs ih =>
    simp only [block, List.map_cons, List.length_cons, List.range_succ_eq_map, List.map_map]
    rw [ih]
    simp [Function.comp_def, Nat.add_assoc, Nat.add_comm 1]

lemma mem_map_fst_block {a p : ℕ} {bs : List β} :
    a ∈ (block p bs).map Prod.fst ↔ p ≤ a ∧ a < p + bs.length := by
  rw [map_fst_block]
  simp only [List.mem_map, List.mem_range]
  constructor
  · rintro ⟨i, hi, rfl⟩
    omega
  · rintro ⟨h1, h2⟩
    exact ⟨a - p, by omega, by omega⟩

/-- **What is stored is read back**, whatever the memory held before. -/
theorem read_applyStores_block (m : Memory β) (p : ℕ) (bs : List β) :
    read (applyStores m (block p bs)) p bs.length = bs := by
  induction bs generalizing m p with
  | nil => rfl
  | cons b bs ih =>
    have hp : p ∉ (block (p + 1) bs).map Prod.fst := by rw [mem_map_fst_block]; omega
    simp only [block, List.length_cons]
    rw [applyStores_cons, Nat.add_comm bs.length 1, read_add, ih]
    simp [read, applyStores_of_notMem _ _ hp]

/-- Cells outside a range of consecutive stores are read as before. -/
theorem read_applyStores_block_of_disjoint (m : Memory β) {p q n : ℕ} {bs : List β}
    (h : q + n ≤ p ∨ p + bs.length ≤ q) : read (applyStores m (block p bs)) q n = read m q n := by
  refine List.map_congr_left fun i hi => applyStores_of_notMem _ _ ?_
  have hi' := List.mem_range.1 hi
  rw [mem_map_fst_block]
  omega

end MatterStrip.Lib
