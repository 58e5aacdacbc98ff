import Mathlib

/-!
# Huashan.Vector.SharedBuffer

The reference-counted buffers that hold the items of a vector. The class comes with the platform,
so it is a parameter of the model: its operations, over any state `H` of the heap and any addresses
`P`, and what they are documented to do to the references and to the sizes. `Counted.buffers` is
an instance of it.
-/

namespace Huashan
namespace Vector

/-- A buffer is named by its data. The laws are those of calls with a buffer that exists. -/
structure SharedBuffer (H P : Type) [DecidableEq P] where
  /-- The references that are held to a buffer. -/
  refs : H → P → Nat
  /-- The bytes of the storage at an address, if there is any. -/
  size : H → P → Option Nat
  alloc : H → Nat → H × Option P
  acquire : H → P → H
  /-- `release(eKeepStorage)`, with the references there were before. -/
  release : H → P → H × Nat
  dealloc : H → P → H
  attemptEdit : H → P → Option P
  editResize : H → P → Nat → H × Option P
  alloc_none {h h' : H} {n : Nat} : alloc h n = (h', none) → refs h' = refs h ∧ size h' = size h
  alloc_some {h h' : H} {n : Nat} {q : P} : alloc h n = (h', some q) →
    refs h q = 0 ∧ size h q = none ∧ refs h' = Function.update (refs h) q 1 ∧
      size h' = Function.update (size h) q (some n)
  acquire_eq {h : H} {p : P} : 0 < refs h p →
    refs (acquire h p) = Function.update (refs h) p (refs h p + 1) ∧ size (acquire h p) = size h
  release_eq {h : H} {p : P} : 0 < refs h p →
    refs (release h p).1 = Function.update (refs h) p (refs h p - 1) ∧
      size (release h p).1 = size h ∧ (release h p).2 = refs h p
  dealloc_eq {h : H} {p : P} : refs h p = 0 →
    refs (dealloc h p) = refs h ∧ size (dealloc h p) = Function.update (size h) p none
  attemptEdit_eq {h : H} {p : P} : 0 < refs h p →
    attemptEdit h p = if refs h p = 1 then some p else none
  editResize_none {h h' : H} {p : P} {n : Nat} : 0 < refs h p → editResize h p n = (h', none) →
    refs h' = refs h ∧ size h' = size h
  /-- The only owner's buffer is resized where it is or moved, and a shared one is left to the
  others. -/
  editResize_some {h h' : H} {p q : P} {n : Nat} : 0 < refs h p →
    editResize h p n = (h', some q) →
      (q = p ∧ refs h p = 1 ∧ refs h' = refs h ∧
        size h' = Function.update (size h) p (some n)) ∨
      (q ≠ p ∧ refs h q = 0 ∧ size h q = none ∧
        refs h' = Function.update (Function.update (refs h) p (refs h p - 1)) q 1 ∧
        size h' = Function.update
          (if refs h p = 1 then Function.update (size h) p none else size h) q (some n))

/-! ## Counted buffers -/

/-- Buffers at the addresses below `next`, none larger than `limit`. -/
structure Counted where
  refs : Nat → Nat
  size : Nat → Option Nat
  next : Nat
  limit : Nat
  fresh : ∀ p, next ≤ p → refs p = 0 ∧ size p = none

namespace Counted

def new (limit : Nat) : Counted := ⟨fun _ => 0, fun _ => none, 0, limit, fun _ _ => ⟨rfl, rfl⟩⟩

variable (h : Counted)

/-- `h` with the references and the size at an address below `next` changed. -/
def set (p r : Nat) (s : Option Nat) (hp : p < h.next) : Counted where
  refs := Function.update h.refs p r
  size := Function.update h.size p s
  next := h.next
  limit := h.limit
  fresh := by
    intro q hq
    have hne : q ≠ p := by omega
    simpa [hne] using h.fresh q hq

/-- `h` with a buffer of `n` bytes at `next`. -/
def push (n : Nat) : Counted where
  refs := Function.update h.refs h.next 1
  size := Function.update h.size h.next (some n)
  next := h.next + 1
  limit := h.limit
  fresh := by
    intro q hq
    have hne : q ≠ h.next := by omega
    simpa [hne] using h.fresh q (by omega)

def alloc (n : Nat) : Counted × Option Nat :=
  if n ≤ h.limit then (h.push n, some h.next) else (h, none)

def setRefs (p r : Nat) : Counted := if hp : p < h.next then h.set p r (h.size p) hp else h

def dealloc (p : Nat) : Counted := if hp : p < h.next then h.set p (h.refs p) none hp else h

def editResize (p n : Nat) : Counted × Option Nat :=
  if n ≤ h.limit then
    if hp : h.refs p = 1 ∧ p < h.next then (h.set p 1 (some n) hp.2, some p)
    else ((h.setRefs p (h.refs p - 1)).push n, some h.next)
  else (h, none)

variable {h}

theorem lt_next {p : Nat} (hp : 0 < h.refs p) : p < h.next := by
  by_contra hn
  have := (h.fresh p (by omega)).1
  omega

theorem setRefs_eq {p : Nat} (hp : 0 < h.refs p) (r : Nat) :
    (h.setRefs p r).refs = Function.update h.refs p r ∧ (h.setRefs p r).size = h.size := by
  simp [setRefs, lt_next hp, set]

theorem dealloc_eq (p : Nat) :
    (h.dealloc p).refs = h.refs ∧ (h.dealloc p).size = Function.update h.size p none := by
  by_cases hp : p < h.next
  · simp [dealloc, hp, set]
  · have := h.fresh p (by omega)
    simp [dealloc, hp, ← this.2]

def buffers : SharedBuffer Counted Nat where
  refs h := h.refs
  size h := h.size
  alloc h := h.alloc
  acquire h p := h.setRefs p (h.refs p + 1)
  release h p := (h.setRefs p (h.refs p - 1), h.refs p)
  dealloc h := h.dealloc
  attemptEdit h p := if h.refs p = 1 then some p else none
  editResize h := h.editResize
  alloc_none := by
    intro h h' n heq
    simp only [alloc] at heq
    split at heq
    · cases heq
    · cases heq; exact ⟨rfl, rfl⟩
  alloc_some := by
    intro h h' n q heq
    simp only [alloc] at heq
    split at heq
    · cases heq; exact ⟨(h.fresh _ le_rfl).1, (h.fresh _ le_rfl).2, rfl, rfl⟩
    · cases heq
  acquire_eq hp := setRefs_eq hp _
  release_eq hp := ⟨(setRefs_eq hp _).1, (setRefs_eq hp _).2, rfl⟩
  dealloc_eq _ := dealloc_eq _
  attemptEdit_eq _ := rfl
  editResize_none := by
    intro h h' p n hp heq
    simp only [editResize] at heq
    split at heq
    · split at heq <;> cases heq
    · cases heq; exact ⟨rfl, rfl⟩
  editResize_some := by
    intro h h' p q n hp heq
    have hlt := lt_next hp
    have hfresh := h.fresh h.next le_rfl
    simp only [editResize] at heq
    split at heq
    · split at heq
      · rename_i hone
        cases heq
        refine .inl ⟨rfl, hone.1, ?_, rfl⟩
        simp [set, ← hone.1]
      · rename_i hshared
        cases heq
        have hne : h.refs p ≠ 1 := fun h1 => hshared ⟨h1, hlt⟩
        have hnext : (h.setRefs p (h.refs p - 1)).next = h.next := by simp [setRefs, hlt, set]
        obtain ⟨hrefs, hsize⟩ := setRefs_eq hp (h.refs p - 1)
        refine .inr ⟨by omega, hfresh.1, hfresh.2, ?_, ?_⟩
        · simp only [push, hnext, hrefs]
        · simp only [push, hnext, hsize, if_neg hne]
    · cases heq

end Counted

end Vector
end Huashan
