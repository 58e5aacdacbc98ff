import Mathlib

/-!
# Huashan.Slots

Blocks of storage in which objects are built and destroyed. A slot has bits before an object is
built in it and after the object is destroyed.

* `Block.read`, `Block.build`, `Block.destroy`: the contents of some slots in a row, new objects in
  them, and the end of the objects in them.
* `Block.Filled b k xs`: from the slot `k` on are the objects `xs`.
* `Block.RawFrom b k`: no slot from `k` on is an object.
-/

namespace Huashan

inductive Slot (α : Type*) where
  | raw (bits : α)
  | object (value : α)

namespace Slot

variable {α : Type*}

def bits : Slot α → α
  | raw a => a
  | object a => a

def isObject : Slot α → Bool
  | raw _ => false
  | object _ => true

@[simp] theorem bits_raw (a : α) : (raw a).bits = a := rfl
@[simp] theorem bits_object (a : α) : (object a).bits = a := rfl
@[simp] theorem isObject_raw (a : α) : (raw a).isObject = false := rfl
@[simp] theorem isObject_object (a : α) : (object a).isObject = true := rfl

end Slot

abbrev Block (α : Type*) := Nat → Slot α

namespace Block

variable {α : Type*}

section Operations

variable (b : Block α)

/-- The bits of the `n` slots from `k` on. -/
def read (k n : Nat) : List α := (List.range n).map fun i => (b (k + i)).bits

/-- Objects with the values `xs` in the slots from `k` on. -/
def build (k : Nat) (xs : List α) : Block α := fun i =>
  if h : k ≤ i ∧ i - k < xs.length then .object (xs[i - k]) else b i

/-- The `n` slots from `k` on without their objects. -/
def destroy (k n : Nat) : Block α := fun i =>
  if k ≤ i ∧ i < k + n then .raw (b i).bits else b i

def Filled (k : Nat) (xs : List α) : Prop :=
  ∀ i, (h : i < xs.length) → b (k + i) = .object (xs[i])

def RawFrom (k : Nat) : Prop := ∀ i, k ≤ i → (b i).isObject = false

end Operations

variable {b : Block α} {j k n : Nat} {xs ys : List α}

@[simp] theorem length_read : (b.read k n).length = n := by simp [read]

/-! ## Filled slots -/

@[simp] theorem filled_nil : b.Filled k [] := by
  intro i h
  simp at h

theorem filled_append : b.Filled k (xs ++ ys) ↔ b.Filled k xs ∧ b.Filled (k + xs.length) ys := by
  constructor
  · intro h
    constructor
    · intro i hi
      have hlt : i < (xs ++ ys).length := by simp; omega
      rw [h i hlt, List.getElem_append_left hi]
    · intro i hi
      have hlt : xs.length + i < (xs ++ ys).length := by simp; omega
      rw [Nat.add_assoc, h _ hlt, List.getElem_append_right (by omega)]
      simp
  · rintro ⟨hx, hy⟩ i hi
    by_cases hlt : i < xs.length
    · rw [hx i hlt, List.getElem_append_left hlt]
    · simp only [List.length_append] at hi
      have := hy (i - xs.length) (by omega)
      rw [List.getElem_append_right (by omega), ← this]
      congr 1
      omega

theorem Filled.read_eq (h : b.Filled k xs) : b.read k xs.length = xs := by
  apply List.ext_getElem
  · simp
  · intro i _ hi
    simp [read, h i hi]

theorem Filled.isObject (h : b.Filled k xs) {i : Nat} (hk : k ≤ i) (hi : i < k + xs.length) :
    (b i).isObject = true := by
  have := h (i - k) (by omega)
  rw [Nat.add_sub_cancel' hk] at this
  simp [this]

theorem Filled.take (h : b.Filled k xs) (n : Nat) : b.Filled k (xs.take n) := by
  rw [← List.take_append_drop n xs, filled_append] at h
  exact h.1

theorem Filled.drop (h : b.Filled k xs) (hn : n ≤ xs.length) : b.Filled (k + n) (xs.drop n) := by
  rw [← List.take_append_drop n xs, filled_append, List.length_take_of_le hn] at h
  exact h.2

theorem Filled.congr {b' : Block α} (h : b.Filled k xs)
    (hb : ∀ i, k ≤ i → i < k + xs.length → b' i = b i) : b'.Filled k xs := by
  intro i hi
  rw [hb _ (by omega) (by omega)]
  exact h i hi

/-! ## Building and destroying -/

theorem build_of_lt {i : Nat} (h : i < k) : b.build k xs i = b i := by
  simp only [build]
  rw [dif_neg (by omega)]

theorem build_of_le {i : Nat} (h : k + xs.length ≤ i) : b.build k xs i = b i := by
  simp only [build]
  rw [dif_neg (by omega)]

@[simp] theorem build_nil : b.build k [] = b := by
  funext i
  simp [build]

@[simp] theorem destroy_zero : b.destroy k 0 = b := by
  funext i
  simp only [destroy]
  rw [if_neg (by omega)]

theorem destroy_of_lt {i : Nat} (h : i < k) : b.destroy k n i = b i := by
  simp only [destroy]
  rw [if_neg (by omega)]

theorem destroy_of_le {i : Nat} (h : k + n ≤ i) : b.destroy k n i = b i := by
  simp only [destroy]
  rw [if_neg (by omega)]

theorem filled_build : (b.build k xs).Filled k xs := by
  intro i hi
  simp [build, hi]

theorem Filled.build (h : b.Filled k xs) (hd : k + xs.length ≤ j ∨ j + ys.length ≤ k) :
    (b.build j ys).Filled k xs := by
  refine h.congr fun i hk hi => ?_
  obtain hd | hd := hd
  · exact build_of_lt (by omega)
  · exact build_of_le (by omega)

theorem Filled.destroy (h : b.Filled k xs) (hd : k + xs.length ≤ j ∨ j + n ≤ k) :
    (b.destroy j n).Filled k xs := by
  refine h.congr fun i hk hi => ?_
  obtain hd | hd := hd
  · exact destroy_of_lt (by omega)
  · exact destroy_of_le (by omega)

theorem RawFrom.mono (h : b.RawFrom k) (hjk : k ≤ j) : b.RawFrom j :=
  fun i hi => h i (Nat.le_trans hjk hi)

theorem RawFrom.build (h : b.RawFrom n) (hn : k + xs.length ≤ n) : (b.build k xs).RawFrom n := by
  intro i hi
  rw [build_of_le (by omega)]
  exact h i hi

theorem RawFrom.destroy (h : b.RawFrom n) : (b.destroy j k).RawFrom n := by
  intro i hi
  simp only [Block.destroy]
  split
  · rfl
  · exact h i hi

/-- When all objects from `k` on are destroyed, none is left there. -/
theorem rawFrom_destroy (h : b.RawFrom (k + n)) : (b.destroy k n).RawFrom k := by
  intro i hi
  simp only [Block.destroy]
  split
  · rfl
  · exact h i (by omega)

end Block

end Huashan
