import Huashan.Graphics.GraphicBuffer
import Huashan.Run

/-!
# Huashan.Graphics.Process

The graphic buffers of a process, and the handles that they and the rest of the process own. What
gralloc answers is an argument of each function. A function returns nothing when it frees a handle
that cannot be freed.
-/

namespace Huashan
namespace Graphics

inductive Owner where
  | ownNone
  | ownHandle
  | ownData
  deriving DecidableEq

structure GraphicBuffer (ν : Type) where
  width : Word
  height : Word
  stride : Word
  format : Word
  usage : Word
  /-- The address of the handle. -/
  handle : Option Nat
  mOwner : Owner
  mInitCheck : Status
  /-- The buffer that is kept from being destroyed. -/
  mWrappedBuffer : Option ν

/-- A buffer without size and handle that is to own what it allocates. -/
def GraphicBuffer.empty {ν : Type} : GraphicBuffer ν :=
  ⟨0, 0, 0, 0, 0, none, .ownData, .noError, none⟩

/-- Without size and handle. -/
def GraphicBuffer.cleared {ν : Type} (b : GraphicBuffer ν) : GraphicBuffer ν :=
  { b with width := 0, height := 0, stride := 0, format := 0, usage := 0, handle := none }

structure Process (ν : Type) where
  buffers : ν → Option (GraphicBuffer ν)
  /-- The handles that have not been freed. -/
  handles : Nat → Option NativeHandle
  /-- Those of them that gralloc has allocated. -/
  allocated : Nat → Bool
  /-- Those of them that have been registered with gralloc. -/
  registered : Nat → Bool
  /-- The handles for which the allocator has a record. -/
  sAllocList : Nat → Bool
  /-- The handles that the rest of the process is to free. -/
  callers : Nat → Bool
  /-- An address that has not been used. -/
  next : Nat

/-- What gralloc returns for an allocation: a handle and a stride, or an error. -/
abbrev Allocation := Option (NativeHandle × Word)

inductive Event (ν : Type) where
  /-- The constructors of `GraphicBuffer`. -/
  | construct (v : ν)
  | constructSize (v : ν) (width height format usage : Word) (result : Allocation)
  | constructHandle (v : ν) (width height format usage stride : Word) (h : Nat)
      (keepOwnership : Bool)
  | constructWrapper (v u : ν) (keepOwnership : Bool)
  | destroy (v : ν) (freed : Bool)
  | reallocate (v : ν) (width height format usage : Word) (freed : Bool) (result : Allocation)
  | unflatten (v : ν) (c : Cursor) (m : Memory) (freed created registered : Bool)
  /-- The rest of the process makes a handle that it is to free. -/
  | makeHandle (h : NativeHandle)
  | releaseHandle (h : Nat)

namespace Process

variable {ν : Type} [DecidableEq ν] (p : Process ν)

def setBuffer (v : ν) (b : Option (GraphicBuffer ν)) : Process ν :=
  { p with buffers := Function.update p.buffers v b }

/-! ## Handles -/

/-- `GraphicBufferAllocator::alloc` when gralloc succeeds. -/
def alloc (h : NativeHandle) : Process ν :=
  { p with
    handles := Function.update p.handles p.next (some h)
    allocated := Function.update p.allocated p.next true
    sAllocList := Function.update p.sAllocList p.next true
    next := p.next + 1 }

/-- `GraphicBufferAllocator::free`. -/
def free (h : Nat) (freed : Bool) : Option (Process ν) :=
  if p.allocated h = true then
    if freed then
      some { p with
        handles := Function.update p.handles h none
        allocated := Function.update p.allocated h false
        sAllocList := Function.update p.sAllocList h false }
    else some p
  else none

def nativeHandleCreate (h : NativeHandle) : Process ν :=
  { p with handles := Function.update p.handles p.next (some h), next := p.next + 1 }

/-- `native_handle_close` and `native_handle_delete`. -/
def nativeHandleDelete (h : Nat) : Option (Process ν) :=
  if (p.handles h).isSome = true ∧ p.allocated h = false then
    some { p with handles := Function.update p.handles h none }
  else none

def registerBuffer (h : Nat) : Process ν :=
  { p with registered := Function.update p.registered h true }

def unregisterBuffer (h : Nat) : Option (Process ν) :=
  if p.registered h = true then
    some { p with registered := Function.update p.registered h false }
  else none

/-! ## Buffers -/

/-- `free_handle` when there is a handle. -/
def freeHandle (owner : Owner) (h : Nat) (freed : Bool) : Option (Process ν) :=
  match owner with
  | .ownHandle => do
    let p ← p.unregisterBuffer h
    p.nativeHandleDelete h
  | .ownData => p.free h freed
  | .ownNone => some p

/-- `initSize` of the buffer `b`. -/
def initSize (b : GraphicBuffer ν) (width height format usage : Word) (result : Allocation) :
    Process ν × GraphicBuffer ν × Status :=
  match result with
  | some (h, stride) =>
    (p.alloc h,
      { b with
        width := width
        height := height
        format := format
        usage := usage
        stride := stride
        handle := some p.next }, .noError)
  | none => (p, b, .failed)

def construct (v : ν) : Process ν := p.setBuffer v (some .empty)

def constructSize (v : ν) (width height format usage : Word) (result : Allocation) : Process ν :=
  let r := p.initSize .empty width height format usage result
  r.1.setBuffer v (some { r.2.1 with mInitCheck := r.2.2 })

/-- When the buffer is to own the handle, the caller gives it away. -/
def giveHandle (h : Option Nat) (keepOwnership : Bool) : Process ν :=
  match h with
  | some h =>
    if keepOwnership then { p with callers := Function.update p.callers h false } else p
  | none => p

def ownerOf (keepOwnership : Bool) : Owner := if keepOwnership then .ownHandle else .ownNone

def constructHandle (v : ν) (width height format usage stride : Word) (h : Nat)
    (keepOwnership : Bool) : Process ν :=
  (p.giveHandle (some h) keepOwnership).setBuffer v
    (some ⟨width, height, stride, format, usage, some h, ownerOf keepOwnership, .noError, none⟩)

def constructWrapper (v u : ν) (b : GraphicBuffer ν) (keepOwnership : Bool) : Process ν :=
  (p.giveHandle b.handle keepOwnership).setBuffer v
    (some { b with
      mOwner := ownerOf keepOwnership
      mInitCheck := .noError
      mWrappedBuffer := some u })

def destroy (v : ν) (b : GraphicBuffer ν) (freed : Bool) : Option (Process ν) := do
  let p ← match b.handle with
    | some h => p.freeHandle b.mOwner h freed
    | none => some p
  return p.setBuffer v none

/-- The buffer has this size, format and usage, and a handle. -/
def Same (b : GraphicBuffer ν) (width height format usage : Word) : Prop :=
  b.handle.isSome = true ∧ width = b.width ∧ height = b.height ∧ format = b.format ∧
    usage = b.usage

instance (b : GraphicBuffer ν) (width height format usage : Word) :
    Decidable (Same b width height format usage) :=
  inferInstanceAs (Decidable (_ ∧ _ ∧ _ ∧ _ ∧ _))

def reallocate (v : ν) (b : GraphicBuffer ν) (width height format usage : Word) (freed : Bool)
    (result : Allocation) : Option (Process ν × Status) :=
  if b.mOwner ≠ .ownData then some (p, .invalidOperation)
  else if Same b width height format usage then some (p, .noError)
  else do
    let p ← match b.handle with
      | some h => p.free h freed
      | none => some p
    let r := p.initSize { b with handle := none } width height format usage result
    return (r.1.setBuffer v (some r.2.1), r.2.2)

/-- `unflatten` after it has read the data and freed the handle before. -/
def receive (v : ν) (b : GraphicBuffer ν) (d : Contents) (created registered : Bool) :
    Process ν × Status :=
  match d.handle with
  | some h =>
    if created then
      let p' := p.nativeHandleCreate h
      if registered then
        ((p'.registerBuffer p.next).setBuffer v
          (some { b with
            width := d.width
            height := d.height
            stride := d.stride
            format := d.format
            usage := d.usage
            handle := some p.next
            mOwner := .ownHandle }), .noError)
      else (p'.setBuffer v (some { b.cleared with mOwner := .ownHandle }), .failed)
    else (p.setBuffer v (some b.cleared), .noMemory)
  | none => (p.setBuffer v (some { b.cleared with mOwner := .ownHandle }), .noError)

/-- The cursor is moved on when nothing has failed. -/
def unflatten (v : ν) (b : GraphicBuffer ν) (c : Cursor) (m : Memory)
    (freed created registered : Bool) : Option ((Process ν × Cursor) × Status) := do
  match ← parse c m with
  | .refused status => return ((p, c), status)
  | .tooLarge => return ((p.setBuffer v (some b.cleared), c), .badValue)
  | .data d rest =>
    let (p, b) ← match b.handle with
      | some h =>
        (p.freeHandle b.mOwner h freed).map fun p => (p, { b with mWrappedBuffer := none })
      | none => some (p, b)
    let (p, status) := p.receive v b d created registered
    return ((p, if status = .noError then rest else c), status)

/-! ## Runs -/

/-- An object is constructed once and is not destroyed while it is wrapped. Ownership of a handle
is given by who has it. -/
def Allowed [Fintype ν] : Event ν → Prop
  | .construct v | .constructSize v .. => (p.buffers v).isNone = true
  | .constructHandle v _ _ _ _ _ h keepOwnership =>
    (p.buffers v).isNone = true ∧ (keepOwnership = true → p.callers h = true)
  | .constructWrapper v u keepOwnership =>
    (p.buffers v).isNone = true ∧ (p.buffers u).isSome = true ∧
      ∀ b ∈ p.buffers u, ∀ h ∈ b.handle, keepOwnership = true → p.callers h = true
  | .destroy v _ =>
    (p.buffers v).isSome = true ∧ ∀ u, ∀ b ∈ p.buffers u, b.mWrappedBuffer ≠ some v
  | .reallocate v .. => (p.buffers v).isSome = true
  | .unflatten v c m .. => (p.buffers v).isSome = true ∧ (parse c m).isSome = true
  | .makeHandle _ => True
  | .releaseHandle h => p.callers h = true

instance [Fintype ν] (e : Event ν) : Decidable (p.Allowed e) :=
  match e with
  | .construct _ => inferInstanceAs (Decidable (_ = _))
  | .constructSize .. => inferInstanceAs (Decidable (_ = _))
  | .constructHandle .. => inferInstanceAs (Decidable (_ ∧ (_ → _)))
  | .constructWrapper .. =>
    inferInstanceAs (Decidable (_ ∧ _ ∧ ∀ _ ∈ _, ∀ _ ∈ _, _ → _))
  | .destroy _ _ => inferInstanceAs (Decidable (_ ∧ ∀ _, ∀ _ ∈ _, _))
  | .reallocate .. => inferInstanceAs (Decidable (_ = _))
  | .unflatten .. => inferInstanceAs (Decidable (_ ∧ _))
  | .makeHandle _ => .isTrue trivial
  | .releaseHandle _ => inferInstanceAs (Decidable (_ = _))

def handle : Event ν → Option (Process ν)
  | .construct v => some (p.construct v)
  | .constructSize v width height format usage result =>
    some (p.constructSize v width height format usage result)
  | .constructHandle v width height format usage stride h keepOwnership =>
    some (p.constructHandle v width height format usage stride h keepOwnership)
  | .constructWrapper v u keepOwnership => do
    let b ← p.buffers u
    return p.constructWrapper v u b keepOwnership
  | .destroy v freed => do
    let b ← p.buffers v
    p.destroy v b freed
  | .reallocate v width height format usage freed result => do
    let b ← p.buffers v
    let (p, _) ← p.reallocate v b width height format usage freed result
    return p
  | .unflatten v c m freed created registered => do
    let b ← p.buffers v
    let ((p, _), _) ← p.unflatten v b c m freed created registered
    return p
  | .makeHandle h =>
    let p' := (p.nativeHandleCreate h).registerBuffer p.next
    some { p' with callers := Function.update p'.callers p.next true }
  | .releaseHandle h => do
    let p ← p.freeHandle .ownHandle h true
    return { p with callers := Function.update p.callers h false }

def step [Fintype ν] (p : Process ν) (e : Event ν) : Option (Process ν) :=
  if p.Allowed e then p.handle e else none

/-- No buffers and no handles. -/
def start : Process ν :=
  ⟨fun _ => none, fun _ => none, fun _ => false, fun _ => false, fun _ => false, fun _ => false, 0⟩

end Process
end Graphics
end Huashan
