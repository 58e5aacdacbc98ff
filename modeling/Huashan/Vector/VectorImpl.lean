import Huashan.Slots
import Huashan.Vector.SharedBuffer

/-!
# Huashan.Vector.VectorImpl

The class under the vectors of the platform: an array of items in a reference-counted buffer that
several vectors share until one of them writes to it. The vectors here have items of one type. The
slots of a buffer are those of `Slots`, so that a use of storage that is not allowed is a fault.
-/

namespace Huashan
namespace Vector

/-- One more than the largest `size_t`. -/
def sizeT : Nat := 2 ^ 32

instance : NeZero sizeT := ⟨by decide⟩

def kMinVectorCapacity : Nat := 4

/-- What a subclass passes to the constructor, and what its virtual functions do. -/
structure ItemType (α : Type) where
  itemSize : Nat
  itemSize_pos : 0 < itemSize
  trivialCtor : Bool
  trivialDtor : Bool
  trivialCopy : Bool
  /-- The value that `do_construct` builds. -/
  constructed : α
  /-- `do_copy` to the slots from `k` on of `n` slots from `j` on in the same storage, when they
  overlap or are not all objects; `none` where the subclass does not define it. -/
  copyOver : Block α → (k j n : Nat) → Option (Block α)

structure VectorImpl (P : Type) where
  mStorage : Option P
  mCount : Nat
  deriving DecidableEq

inductive Status where
  | noMemory
  | badIndex
  | badValue
  | nameNotFound
  deriving DecidableEq

/-- The program was ended on purpose, or did what is not defined. -/
inductive Fault where
  | fatal
  | undefined
  deriving DecidableEq

/-- Items that a caller has somewhere else, or the storage of a buffer from a slot on. -/
inductive Source (P α : Type) where
  | values (xs : List α)
  | storage (p : P) (k : Nat)

structure World (H P ν α : Type) where
  heap : H
  mem : P → Block α
  vec : ν → VectorImpl P

namespace World

variable {H P ν α : Type} [DecidableEq P] [DecidableEq ν]
variable (B : SharedBuffer H P) (T : ItemType α) (w : World H P ν α)

/-- The items that have room in the storage at an address. -/
def slots (p : P) : Nat := (B.size w.heap p).getD 0 / T.itemSize

def setMem (p : P) (b : Block α) : World H P ν α :=
  { w with mem := Function.update w.mem p b }

def setVec (v : ν) (x : VectorImpl P) : World H P ν α :=
  { w with vec := Function.update w.vec v x }

def setStorage (v : ν) (p : Option P) : World H P ν α :=
  w.setVec v { w.vec v with mStorage := p }

def setCount (v : ν) (n : Nat) : World H P ν α := w.setVec v { w.vec v with mCount := n }

/-! ## Items in storage -/

def AllObjects (p : P) (k n : Nat) : Prop := ∀ i < n, (w.mem p (k + i)).isObject = true

/-- An object can be built where there is none, or one that needs no destructor. -/
def Vacant (p : P) (k n : Nat) : Prop :=
  T.trivialDtor = true ∨ ∀ i < n, (w.mem p (k + i)).isObject = false

def Readable (src : Source P α) (n : Nat) : Prop :=
  match src with
  | .values xs => n ≤ xs.length
  | .storage p k => k + n ≤ w.slots B T p ∧ (T.trivialCopy = true ∨ w.AllObjects p k n)

def items (src : Source P α) (n : Nat) : List α :=
  match src with
  | .values xs => xs.take n
  | .storage p k => (w.mem p).read k n

/-- The first `m` items of `src` are not among the `n` slots from `k` on. -/
def Apart (p : P) (k n : Nat) (src : Source P α) (m : Nat) : Prop :=
  match src with
  | .values _ => True
  | .storage q j => q = p → k + n ≤ j ∨ j + m ≤ k

/-- The destination of a move may only overlap with its source. -/
def Movable (p : P) (dest source n : Nat) : Prop :=
  dest + n ≤ w.slots B T p ∧ w.Readable B T (.storage p source) n ∧
    (T.trivialDtor = true ∨ ∀ i < n, source ≤ dest + i ∧ dest + i < source + n ∨
      (w.mem p (dest + i)).isObject = false)

instance (p : P) (k n : Nat) : Decidable (w.AllObjects p k n) :=
  inferInstanceAs (Decidable (∀ _ < _, _))

instance (p : P) (k n : Nat) : Decidable (w.Vacant T p k n) :=
  inferInstanceAs (Decidable (_ ∨ ∀ _ < _, _))

instance (src : Source P α) (n : Nat) : Decidable (w.Readable B T src n) :=
  match src with
  | .values _ => inferInstanceAs (Decidable (_ ≤ _))
  | .storage _ _ => inferInstanceAs (Decidable (_ ∧ (_ ∨ _)))

instance (p : P) (k n : Nat) (src : Source P α) (m : Nat) : Decidable (Apart p k n src m) :=
  match src with
  | .values _ => inferInstanceAs (Decidable True)
  | .storage _ _ => inferInstanceAs (Decidable (_ → _))

instance (p : P) (dest source n : Nat) : Decidable (w.Movable B T p dest source n) :=
  inferInstanceAs (Decidable (_ ∧ _ ∧ (_ ∨ ∀ _ < _, _)))

/-- A trivial constructor leaves the bits that are there. -/
def doConstruct (p : P) (k n : Nat) : Except Fault (World H P ν α) :=
  if k + n ≤ w.slots B T p ∧ w.Vacant T p k n then
    .ok (w.setMem p ((w.mem p).build k
      (if T.trivialCtor then (w.mem p).read k n else List.replicate n T.constructed)))
  else .error .undefined

def doDestroy (p : P) (k n : Nat) : Except Fault (World H P ν α) :=
  if T.trivialDtor then .ok w
  else if k + n ≤ w.slots B T p ∧ w.AllObjects p k n then
    .ok (w.setMem p ((w.mem p).destroy k n))
  else .error .undefined

/-- A source that overlaps is for the subclass; `memcpy` does not define it. -/
def copyOver (p : P) (k : Nat) (src : Source P α) (n : Nat) : Except Fault (World H P ν α) :=
  match src with
  | .values _ => .error .undefined
  | .storage q j =>
    if q = p ∧ T.trivialCopy = false ∧ max j k + n ≤ w.slots B T p then
      match T.copyOver (w.mem p) k j n with
      | some b => .ok (w.setMem p b)
      | none => .error .undefined
    else .error .undefined

def doCopy (p : P) (k : Nat) (src : Source P α) (n : Nat) : Except Fault (World H P ν α) :=
  if k + n ≤ w.slots B T p ∧ w.Readable B T src n ∧ Apart p k n src n ∧ w.Vacant T p k n then
    .ok (w.setMem p ((w.mem p).build k (w.items src n)))
  else w.copyOver B T p k src n

/-- `n` copies of one item, which is not read when there are none. -/
def doSplat (p : P) (k : Nat) (item : Source P α) (n : Nat) : Except Fault (World H P ν α) :=
  let m := min n 1
  if k + n ≤ w.slots B T p ∧ w.Readable B T item m ∧ Apart p k n item m ∧ w.Vacant T p k n then
    .ok (w.setMem p ((w.mem p).build k ((w.items item m).flatMap (List.replicate n))))
  else .error .undefined

def doMove (p : P) (dest source n : Nat) : Except Fault (World H P ν α) :=
  if w.Movable B T p dest source n then
    .ok (w.setMem p (((w.mem p).destroy source n).build dest ((w.mem p).read source n)))
  else .error .undefined

def doMoveForward (p : P) (dest source n : Nat) : Except Fault (World H P ν α) :=
  if source ≤ dest then w.doMove B T p dest source n else .error .undefined

def doMoveBackward (p : P) (dest source n : Nat) : Except Fault (World H P ν α) :=
  if dest ≤ source then w.doMove B T p dest source n else .error .undefined

/-! ## Storage -/

def size (v : ν) : Nat := (w.vec v).mCount

/-- The array that a vector passes to another one. -/
def arrayImpl (v : ν) : Source P α :=
  match (w.vec v).mStorage with
  | none => .values []
  | some p => .storage p 0

def capacity (v : ν) : Nat :=
  match (w.vec v).mStorage with
  | none => 0
  | some p => w.slots B T p

def releaseStorage (v : ν) : Except Fault (World H P ν α) :=
  match (w.vec v).mStorage with
  | none => .ok w
  | some p => do
    let (heap, before) := B.release w.heap p
    let w := { w with heap := heap }
    if before = 1 then
      let w ← w.doDestroy B T p 0 (w.size v)
      return { w with heap := B.dealloc w.heap p }
    else
      return w

/-- Storage of `bytes` bytes with copies of what the vector has, in the place of its own. -/
def replaceStorage (v : ν) (bytes : Nat)
    (copy : World H P ν α → P → Except Fault (World H P ν α)) :
    Except Fault (World H P ν α × Option P) :=
  match B.alloc w.heap bytes with
  | (heap, none) => .ok ({ w with heap := heap }, none)
  | (heap, some q) => do
    let w ← copy { w with heap := heap } q
    let w ← w.releaseStorage B T v
    return (w.setStorage v (some q), some q)

def editArrayImpl (v : ν) : Except Fault (World H P ν α × Option P) :=
  match (w.vec v).mStorage with
  | none => .ok (w, none)
  | some p =>
    match B.attemptEdit w.heap p with
    | some _ => .ok (w, some p)
    | none => do
      let (w, editable) ← w.replaceStorage B T v ((B.size w.heap p).getD 0) fun w q =>
        w.doCopy B T q 0 (.storage p 0) (w.size v)
      match editable with
      | none => .error .fatal
      | some q => return (w, some q)

/-- `editResize` takes along as many items as have room. -/
def editResize (v : ν) (p : P) (bytes : Nat) : World H P ν α × Option P :=
  match B.editResize w.heap p bytes with
  | (heap, none) => ({ w with heap := heap }, none)
  | (heap, some q) =>
    let kept := min (w.slots B T p) (bytes / T.itemSize)
    let w' := { w with heap := heap }
    let w' := if q = p then w' else
      w'.setMem q fun i => if i < kept then w.mem p i else w.mem q i
    (w'.setStorage v (some q), some q)

def itemLocation (v : ν) (index : Nat) : Option (P × Nat) :=
  if index < w.capacity B T v then (w.vec v).mStorage.map fun p => (p, index) else none

def editItemLocation (v : ν) (index : Nat) :
    Except Fault (World H P ν α × Option (P × Nat)) := do
  if index < w.capacity B T v then
    let (w, buffer) ← w.editArrayImpl B T v
    return (w, buffer.map fun p => (p, index))
  else
    return (w, none)

def guardFatal (overflow : Bool) : Except Fault Unit :=
  if overflow then .error .fatal else .ok ()

/-- Storage for `newCapacity` items with a gap: resized when the gap is behind all items and these
are trivial. -/
def growStorage (v : ν) (pos amount newCapacity : Nat) :
    Except Fault (World H P ν α × Option P) :=
  let count := w.size v
  match (w.vec v).mStorage, count = pos && T.trivialCopy && T.trivialDtor with
  | some p, true => .ok (w.editResize B T v p (newCapacity * T.itemSize))
  | old, _ => w.replaceStorage B T v (newCapacity * T.itemSize) fun w q => do
    let source (k : Nat) : Source P α := match old with
      | none => .values []
      | some p => .storage p k
    let w ← (if pos ≠ 0 then w.doCopy B T q 0 (source 0) pos else .ok w)
    if pos ≠ count then w.doCopy B T q (pos + amount) (source pos) (count - pos) else .ok w

/-- Room for `amount` items in front of the one at `pos`, and where it is. -/
def grow (v : ν) (pos amount : Nat) : Except Fault (World H P ν α × Option (P × Nat)) := do
  let count := w.size v
  guardFatal (sizeT ≤ count + amount)
  let newSize := count + amount
  if w.capacity B T v < newSize then
    guardFatal (sizeT ≤ newSize + newSize / 2)
    guardFatal (sizeT ≤ newSize + newSize / 2 + 1)
    let newCapacity := max kMinVectorCapacity (newSize + newSize / 2 + 1)
    guardFatal (sizeT ≤ newCapacity * T.itemSize)
    let (w, array) ← w.growStorage B T v pos amount newCapacity
    match array with
    | none => return (w, none)
    | some _ =>
      let w := w.setCount v newSize
      return (w, w.itemLocation B T v pos)
  else
    let (w, array) ← w.editArrayImpl B T v
    let w ← (match array with
      | none => .ok w
      | some p =>
        if pos ≠ count then w.doMoveForward B T p (pos + amount) pos (count - pos) else .ok w)
    let w := w.setCount v newSize
    return (w, w.itemLocation B T v pos)

/-- Storage for `newCapacity` items without those from `pos` on. -/
def shrinkStorage (v : ν) (p : P) (pos amount newCapacity : Nat) :
    Except Fault (World H P ν α × Option P) :=
  let newSize := w.size v - amount
  if pos = newSize && T.trivialCopy && T.trivialDtor then
    .ok (w.editResize B T v p (newCapacity * T.itemSize))
  else w.replaceStorage B T v (newCapacity * T.itemSize) fun w q => do
    let w ← (if pos ≠ 0 then w.doCopy B T q 0 (.storage p 0) pos else .ok w)
    if pos ≠ newSize then w.doCopy B T q pos (.storage p (pos + amount)) (newSize - pos)
    else .ok w

/-- When there is no memory for smaller storage, nothing is removed. -/
def shrink (v : ν) (pos amount : Nat) : Except Fault (World H P ν α) := do
  match (w.vec v).mStorage with
  | none => return w
  | some p =>
    let count := w.size v
    guardFatal (count < amount)
    let newSize := count - amount
    if newSize < w.capacity B T v / 2 then
      let newCapacity := max kMinVectorCapacity (newSize * 2)
      let (w, array) ← w.shrinkStorage B T v p pos amount newCapacity
      match array with
      | none => return w
      | some _ => return w.setCount v newSize
    else
      let (w, array) ← w.editArrayImpl B T v
      match array with
      | none => return w.setCount v newSize
      | some p =>
        let w ← w.doDestroy B T p pos amount
        let w ← (if pos ≠ newSize then
            w.doMoveBackward B T p pos (pos + amount) (newSize - pos)
          else .ok w)
        return w.setCount v newSize

/-! ## Operations -/

/-- The constructor. -/
def create (v : ν) : World H P ν α := w.setVec v ⟨none, 0⟩

/-- The copy constructor. -/
def copyOf (v u : ν) : World H P ν α :=
  let w := w.setVec v (w.vec u)
  match (w.vec v).mStorage with
  | none => w
  | some p => { w with heap := B.acquire w.heap p }

/-- `operator=`. -/
def assign (v u : ν) : Except Fault (World H P ν α) := do
  if v = u then
    return w
  else
    let w ← w.releaseStorage B T v
    if w.size u ≠ 0 then
      let w := w.setVec v (w.vec u)
      match (w.vec v).mStorage with
      | none => return w
      | some p => return { w with heap := B.acquire w.heap p }
    else
      return w.setVec v ⟨none, 0⟩

def insertArrayAt (v : ν) (array : Source P α) (index length : Nat) :
    Except Fault (World H P ν α × Except Status Nat) := do
  if w.size v < index then
    return (w, .error .badIndex)
  else
    let (w, place) ← w.grow B T v index length
    match place with
    | none => return (w, .error .noMemory)
    | some (p, k) =>
      let w ← w.doCopy B T p k array length
      return (w, .ok index)

def insertVectorAt (v u : ν) (index : Nat) :
    Except Fault (World H P ν α × Except Status Nat) :=
  w.insertArrayAt B T v (w.arrayImpl u) index (w.size u)

def appendVector (v u : ν) : Except Fault (World H P ν α × Except Status Nat) :=
  w.insertVectorAt B T v u (w.size v)

def appendArray (v : ν) (array : Source P α) (length : Nat) :
    Except Fault (World H P ν α × Except Status Nat) :=
  w.insertArrayAt B T v array (w.size v) length

/-- Without an item the new ones are constructed. -/
def insertAt (v : ν) (item : Option (Source P α)) (index numItems : Nat) :
    Except Fault (World H P ν α × Except Status Nat) := do
  if w.size v < index then
    return (w, .error .badIndex)
  else
    let (w, place) ← w.grow B T v index numItems
    match place with
    | none => return (w, .error .noMemory)
    | some (p, k) =>
      let w ← (match item with
        | some item => w.doSplat B T p k item numItems
        | none => w.doConstruct B T p k numItems)
      return (w, .ok index)

def add (v : ν) (item : Option (Source P α)) :
    Except Fault (World H P ν α × Except Status Nat) :=
  w.insertAt B T v item (w.size v) 1

def push (v : ν) (item : Option (Source P α)) : Except Fault (World H P ν α) := do
  let (w, _) ← w.insertAt B T v item (w.size v) 1
  return w

def replaceAt (v : ν) (item : Option (Source P α)) (index : Nat) :
    Except Fault (World H P ν α × Except Status Nat) := do
  if w.size v ≤ index then
    return (w, .error .badIndex)
  else
    let (w, place) ← w.editItemLocation B T v index
    match place, item with
    | none, none => return (w, .ok index)
    | none, some _ => return (w, .error .noMemory)
    | some (p, k), none =>
      let w ← w.doDestroy B T p k 1
      let w ← w.doConstruct B T p k 1
      return (w, .ok index)
    | some (p, k), some (.values xs) =>
      let w ← w.doDestroy B T p k 1
      let w ← w.doCopy B T p k (.values xs) 1
      return (w, .ok index)
    | some (p, k), some (.storage q j) =>
      if p = q ∧ k = j then
        return (w, .ok index)
      else
        let w ← w.doDestroy B T p k 1
        let w ← w.doCopy B T p k (.storage q j) 1
        return (w, .ok index)

def removeItemsAt (v : ν) (index count : Nat) :
    Except Fault (World H P ν α × Except Status Nat) := do
  if w.size v < (index + count) % sizeT then
    return (w, .error .badValue)
  else
    let w ← w.shrink B T v index count
    return (w, .ok index)

def pop (v : ν) : Except Fault (World H P ν α) := do
  if w.size v ≠ 0 then
    let (w, _) ← w.removeItemsAt B T v (w.size v - 1) 1
    return w
  else
    return w

def clear (v : ν) : Except Fault (World H P ν α) := w.shrink B T v 0 (w.size v)

def setCapacity (v : ν) (newCapacity : Nat) :
    Except Fault (World H P ν α × Except Status Nat) := do
  if newCapacity ≤ w.size v then
    return (w, .ok (w.capacity B T v))
  else
    guardFatal (sizeT ≤ newCapacity * T.itemSize)
    let (w, array) ← w.replaceStorage B T v (newCapacity * T.itemSize) fun w q =>
      w.doCopy B T q 0 (w.arrayImpl v) (w.size v)
    match array with
    | none => return (w, .error .noMemory)
    | some _ => return (w, .ok newCapacity)

def resize (v : ν) (size : Nat) : Except Fault (World H P ν α × Except Status Nat) := do
  let (w, result) ← (
    if w.size v < size then w.insertAt B T v none (w.size v) (size - w.size v)
    else if size < w.size v then w.removeItemsAt B T v size (w.size v - size)
    else .ok (w, .ok 0))
  return (w, result.map fun _ => size)

def finishVector (v : ν) : Except Fault (World H P ν α) := do
  let w ← w.releaseStorage B T v
  return w.setVec v ⟨none, 0⟩

/-! ## Sorting -/

/-- An item as a comparison function gets it. -/
def readItem (p : P) (i : Nat) : Except Fault α :=
  if i < w.slots B T p ∧ (w.mem p i).isObject = true then .ok (w.mem p i).bits
  else .error .undefined

def replaceItem (p : P) (i : Nat) (src : Source P α) : Except Fault (World H P ν α) := do
  let w ← w.doDestroy B T p i 1
  w.doCopy B T p i src 1

/-- The item before the slot `j + 1` is moved there, and so on with the ones before it that are
larger than `temp`. -/
def shiftBack (cmp : α → α → Int) (p : P) (temp : α) :
    Nat → World H P ν α → Except Fault (World H P ν α)
  | 0, w => do
    let w ← w.replaceItem B T p 1 (.storage p 0)
    w.replaceItem B T p 0 (.values [temp])
  | j + 1, w => do
    let w ← w.replaceItem B T p (j + 2) (.storage p (j + 1))
    let curr ← w.readItem B T p j
    if cmp curr temp > 0 then shiftBack cmp p temp j w
    else w.replaceItem B T p (j + 1) (.values [temp])

/-- The loop of `sort` when `n` items are left. The array is made editable and `temp` allocated
for the first item that is out of order. -/
def sortFrom (v : ν) (cmp : α → α → Int) (malloc : Bool) :
    Nat → World H P ν α → P → Option α → Except Fault (World H P ν α × Except Status Nat)
  | 0, w, _, _ => .ok (w, .ok 0)
  | n + 1, w, array, temp => do
    let i := w.size v - (n + 1)
    let item ← w.readItem B T array i
    let curr ← w.readItem B T array (i - 1)
    if cmp curr item > 0 then
      let (w, editable) ← (match temp with
        | none => w.editArrayImpl B T v
        | some _ => .ok (w, some array))
      match editable with
      | none => return (w, .error .noMemory)
      | some array =>
        if temp.isNone && !malloc then
          return (w, .error .noMemory)
        else
          let temp ← w.readItem B T array i
          let w ← shiftBack B T cmp array temp (i - 1) w
          sortFrom v cmp malloc n w array (some temp)
    else
      sortFrom v cmp malloc n w array temp

def sort (v : ν) (cmp : α → α → Int) (malloc : Bool) :
    Except Fault (World H P ν α × Except Status Nat) :=
  if 1 < w.size v then
    match (w.vec v).mStorage with
    | none => .error .undefined
    | some array => sortFrom B T v cmp malloc (w.size v - 1) w array none
  else .ok (w, .ok 0)

end World

end Vector
end Huashan
