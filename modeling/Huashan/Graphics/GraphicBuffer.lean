import Huashan.Bytes

/-!
# Huashan.Graphics.GraphicBuffer

How a graphic buffer is flattened for another process and read back. Places in memory are counted
in words, sizes in bytes.
-/

namespace Huashan
namespace Graphics

abbrev Word := BitVec 32

/-- One more than the largest `size_t`. -/
def sizeT : Nat := 2 ^ 32

/-- A `native_handle`, whose counts are of type `int`. -/
structure NativeHandle where
  fds : List Word
  ints : List Word
  numFds_lt : fds.length < 2 ^ 31
  numInts_lt : ints.length < 2 ^ 31

inductive Status where
  | noError
  | noMemory
  | badType
  | badValue
  | invalidOperation
  /-- What gralloc has returned. -/
  | failed
  deriving DecidableEq

/-! ## Flattening -/

/-- What a buffer writes about itself. -/
structure Contents where
  width : Word
  height : Word
  stride : Word
  format : Word
  usage : Word
  handle : Option NativeHandle

/-- No size, and no handle. -/
def Contents.nothing : Contents := ⟨0, 0, 0, 0, 0, none⟩

/-- The arguments that `flatten` and `unflatten` move on: where to write or read, and how much room
is left. -/
structure Cursor where
  buffer : Nat
  size : Nat
  fds : Nat
  count : Nat

structure Memory where
  words : List Word
  fds : List Word

/-- `data` in the place of as many items from `off` on. -/
def overwrite {α : Type} (l : List α) (off : Nat) (data : List α) : List α :=
  l.take off ++ data ++ l.drop (off + data.length)

/-- `'GBFR'`. -/
def gbfr : Word := 0x47424652

namespace Contents

variable (b : Contents)

def numFds : Nat := (b.handle.map fun h => h.fds.length).getD 0

def numInts : Nat := (b.handle.map fun h => h.ints.length).getD 0

def fds : List Word := (b.handle.map NativeHandle.fds).getD []

def ints : List Word := (b.handle.map NativeHandle.ints).getD []

def getFlattenedSize : Nat := (8 + b.numInts) * 4 % sizeT

def getFdCount : Nat := b.numFds

def words : List Word :=
  [gbfr, b.width, b.height, b.stride, b.format, b.usage, BitVec.ofNat 32 b.numFds,
    BitVec.ofNat 32 b.numInts] ++ b.ints

/-- The pointer is moved on by as many words as the size has bytes. Nothing is returned when the
code writes outside the memory. -/
def flatten (c : Cursor) (m : Memory) : Option ((Cursor × Memory) × Status) :=
  let sizeNeeded := b.getFlattenedSize
  let fdCountNeeded := b.getFdCount
  if c.size < sizeNeeded then some ((c, m), .noMemory)
  else if c.count < fdCountNeeded then some ((c, m), .noMemory)
  else if c.buffer + b.words.length ≤ m.words.length ∧ c.fds + b.fds.length ≤ m.fds.length then
    some ((⟨c.buffer + sizeNeeded, c.size - sizeNeeded, c.fds + b.numFds, c.count - b.numFds⟩,
      ⟨overwrite m.words c.buffer b.words, overwrite m.fds c.fds b.fds⟩), .noError)
  else none

end Contents

/-- What `unflatten` finds. -/
inductive Parsed where
  | refused (status : Status)
  /-- There are more descriptors or integers than are read. -/
  | tooLarge
  | data (b : Contents) (rest : Cursor)

/-- A handle with these descriptors and integers. There are as many as an `int` can count. -/
def nativeHandle (fds ints : List Word) : Option NativeHandle :=
  if h : fds.length < 2 ^ 31 ∧ ints.length < 2 ^ 31 then some ⟨fds, ints, h.1, h.2⟩ else none

/-- What `unflatten` reads. Nothing is returned when it reads outside the memory. -/
def parse (c : Cursor) (m : Memory) : Option Parsed :=
  if c.size < 8 * 4 then some (.refused .noMemory)
  else
    match slice m.words c.buffer 8 with
    | [magic, width, height, stride, format, usage, six, seven] =>
      if magic ≠ gbfr then some (.refused .badType)
      else
        let numFds := six.toNat
        let numInts := seven.toNat
        let maxNumber := 4096
        if maxNumber ≤ numFds ∨ maxNumber - 10 ≤ numInts then some .tooLarge
        else
          let sizeNeeded := (8 + numInts) * 4 % sizeT
          if c.size < sizeNeeded then some (.refused .noMemory)
          else if c.count < numFds then some (.refused .noMemory)
          else if c.buffer + 8 + numInts ≤ m.words.length ∧ c.fds + numFds ≤ m.fds.length then
            let b : Contents :=
              if numFds ≠ 0 ∨ numInts ≠ 0 then
                ⟨width, height, stride, format, usage,
                  nativeHandle (slice m.fds c.fds numFds) (slice m.words (c.buffer + 8) numInts)⟩
              else .nothing
            some (.data b
              ⟨c.buffer + sizeNeeded, c.size - sizeNeeded, c.fds + numFds, c.count - numFds⟩)
          else none
    | _ => none

end Graphics
end Huashan
