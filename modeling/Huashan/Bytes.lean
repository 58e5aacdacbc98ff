import Mathlib

/-!
# Huashan.Bytes

Little-endian numbers, slices of lists, and files that are written at positions.

* `ofLeBytes_leBytes`: a number that fits its width is read back.
* `slice_flatMap`: the records of a sequence of equally long records.
* `fieldsAt_of_slice`: packed numbers are read back, one after the other.
* `slice_writeAt_self`, `slice_writeAt_of_disjoint`: a write is read back, and leaves alone what it
  does not overlap.
* `slice_writeAll`: each of a sequence of writes in the order of their positions is read back.
-/

namespace Huashan

/-! ## Little-endian numbers -/

/-- The lowest `width` bytes of a number, the lowest one first. -/
def leBytes : Nat → Nat → List UInt8
  | 0, _ => []
  | width + 1, n => UInt8.ofNat n :: leBytes width (n / 256)

def ofLeBytes : List UInt8 → Nat
  | [] => 0
  | b :: bs => b.toNat + 256 * ofLeBytes bs

@[simp] theorem length_leBytes (width n : Nat) : (leBytes width n).length = width := by
  induction width generalizing n with
  | zero => rfl
  | succ width ih => simp [leBytes, ih]

theorem ofLeBytes_leBytes {width n : Nat} (h : n < 256 ^ width) :
    ofLeBytes (leBytes width n) = n := by
  induction width generalizing n with
  | zero =>
    rw [pow_zero, Nat.lt_one_iff] at h
    rw [h]
    rfl
  | succ width ih =>
    have hrest : n / 256 < 256 ^ width := by
      rw [pow_succ'] at h
      exact Nat.div_lt_of_lt_mul h
    have hlow : (UInt8.ofNat n).toNat = n % 256 := UInt8.toNat_ofNat'
    rw [leBytes, ofLeBytes, ih hrest, hlow]
    omega

/-! ## Slices -/

section Slices

variable {α β : Type*}

/-- The `len` elements from `off` on, as far as there are such. -/
def slice (l : List α) (off len : Nat) : List α := (l.drop off).take len

theorem getElem?_slice (l : List α) (off len i : Nat) :
    (slice l off len)[i]? = if i < len then l[off + i]? else none := by
  rw [slice, List.getElem?_take, List.getElem?_drop]

theorem slice_zero (l : List α) (off : Nat) : slice l off 0 = [] := List.take_zero

theorem slice_all {l : List α} {len : Nat} (h : l.length = len) : slice l 0 len = l := by
  rw [slice, List.drop_zero]
  exact List.take_of_length_le h.le

theorem slice_slice (l : List α) {off len off' len' : Nat} (h : off' + len' ≤ len) :
    slice (slice l off len) off' len' = slice l (off + off') len' := by
  apply List.ext_getElem?
  intro i
  simp only [getElem?_slice]
  by_cases hi : i < len'
  · rw [if_pos hi, if_pos hi, if_pos (by omega), Nat.add_assoc]
  · rw [if_neg hi, if_neg hi]

theorem slice_append_left (l l' : List α) {off len : Nat} (h : off + len ≤ l.length) :
    slice (l ++ l') off len = slice l off len := by
  apply List.ext_getElem?
  intro i
  simp only [getElem?_slice]
  split
  · exact List.getElem?_append_left (by omega)
  · rfl

theorem slice_append_right (l l' : List α) (off len : Nat) :
    slice (l ++ l') (l.length + off) len = slice l' off len := by
  rw [slice, slice, List.drop_append, List.drop_of_length_le (by omega), Nat.add_sub_cancel_left,
    List.nil_append]

/-- The `i`-th of a sequence of records that all have `size` elements. -/
theorem slice_flatMap {f : α → List β} {size : Nat} (hf : ∀ x, (f x).length = size) {l : List α}
    {i : Nat} (hi : i < l.length) : slice (l.flatMap f) (size * i) size = f l[i] := by
  induction l generalizing i with
  | nil => cases hi
  | cons x l ih =>
    rw [List.flatMap_cons]
    cases i with
    | zero =>
      rw [Nat.mul_zero, slice_append_left _ _ (by rw [hf]; omega), slice, List.drop_zero, ← hf x,
        List.take_length]
      rfl
    | succ i =>
      have hoff : size * (i + 1) = (f x).length + size * i := by
        rw [hf, Nat.mul_succ, Nat.add_comm]
      rw [hoff, slice_append_right, ih (Nat.lt_of_succ_lt_succ hi)]
      rfl

theorem length_flatMap_of_length {f : α → List β} {size : Nat} (hf : ∀ x, (f x).length = size)
    (l : List α) : (l.flatMap f).length = size * l.length := by
  induction l with
  | nil => rfl
  | cons x l ih => rw [List.flatMap_cons, List.length_append, hf, ih, List.length_cons]; ring

end Slices

/-- The little-endian number of four bytes at an offset. -/
def u32At (bytes : List UInt8) (off : Nat) : Nat := ofLeBytes (slice bytes off 4)

def u16At (bytes : List UInt8) (off : Nat) : Nat := ofLeBytes (slice bytes off 2)

/-- The `j`-th of a sequence of numbers of four bytes each. -/
theorem u32At_flatMap {words : List Nat} (hwords : ∀ w ∈ words, w < 2 ^ 32) {j : Nat}
    (hj : j < words.length) : u32At (words.flatMap (leBytes 4)) (4 * j) = words[j] := by
  rw [u32At, slice_flatMap (length_leBytes 4) hj]
  exact ofLeBytes_leBytes (hwords _ (List.getElem_mem hj))

theorem u32At_slice (bytes : List UInt8) {off len off' : Nat} (h : off' + 4 ≤ len) :
    u32At (slice bytes off len) off' = u32At bytes (off + off') := by
  rw [u32At, slice_slice bytes h, u32At]

/-! ## Packed numbers -/

/-- The bytes of a sequence of numbers, given with their widths. -/
def fieldBytes (fields : List (Nat × Nat)) : List UInt8 :=
  fields.flatMap fun field => leBytes field.1 field.2

theorem length_fieldBytes (fields : List (Nat × Nat)) :
    (fieldBytes fields).length = (fields.map Prod.fst).sum := by
  rw [fieldBytes, List.length_flatMap]
  simp only [length_leBytes]

/-- The numbers are read one after the other, from `off` on. -/
def FieldsAt (bytes : List UInt8) : Nat → List (Nat × Nat) → Prop
  | _, [] => True
  | off, (width, n) :: fields =>
    ofLeBytes (slice bytes off width) = n ∧ FieldsAt bytes (off + width) fields

/-- Numbers that fit their widths are read back from where they were packed. -/
theorem fieldsAt_of_slice {bytes : List UInt8} {fields : List (Nat × Nat)} {off : Nat}
    (h : slice bytes off (fieldBytes fields).length = fieldBytes fields)
    (hfits : ∀ field ∈ fields, field.2 < 256 ^ field.1) : FieldsAt bytes off fields := by
  induction fields generalizing off with
  | nil => trivial
  | cons field fields ih =>
    obtain ⟨width, n⟩ := field
    have hcons : fieldBytes ((width, n) :: fields) = leBytes width n ++ fieldBytes fields := rfl
    have hlength : (leBytes width n).length = width := length_leBytes _ _
    rw [hcons, List.length_append, hlength] at h
    refine ⟨?_, ih ?_ fun f hf => hfits f (List.mem_cons_of_mem _ hf)⟩
    · have hfirst : slice (slice bytes off (width + (fieldBytes fields).length)) 0 width =
          slice bytes (off + 0) width := slice_slice bytes (by omega)
      rw [h, slice_append_left _ _ (by omega), slice_all hlength, Nat.add_zero] at hfirst
      rw [← hfirst]
      exact ofLeBytes_leBytes (hfits _ List.mem_cons_self)
    · have hrest := slice_append_right (leBytes width n) (fieldBytes fields) 0
        (fieldBytes fields).length
      rw [← h, hlength, slice_slice bytes (by omega), slice_all rfl] at hrest
      exact hrest

/-! ## Writing at a position -/

/-- Seek to `off` and write `data`. What is skipped past the end of the file reads as zero; no data
leaves the file as it is. -/
def writeAt (file : List UInt8) (off : Nat) (data : List UInt8) : List UInt8 :=
  if data = [] then file
  else
    (file ++ List.replicate (off - file.length) 0).take off ++ data ++
      file.drop (off + data.length)

theorem writeAt_nil (file : List UInt8) (off : Nat) : writeAt file off [] = file := if_pos rfl

theorem getElem?_writeAt {data : List UInt8} (hdata : data ≠ []) (file : List UInt8) (off i : Nat) :
    (writeAt file off data)[i]? =
      if i < off then (if i < file.length then file[i]? else some 0)
      else if i < off + data.length then data[i - off]? else file[i]? := by
  have hfront :
      ((file ++ List.replicate (off - file.length) (0 : UInt8)).take off).length = off := by
    rw [List.length_take, List.length_append, List.length_replicate]
    omega
  rw [writeAt, if_neg hdata, List.append_assoc]
  by_cases hi : i < off
  · rw [if_pos hi, List.getElem?_append_left (by omega), List.getElem?_take_of_lt hi]
    split
    · next hfile => exact List.getElem?_append_left hfile
    · next hfile =>
      rw [List.getElem?_append_right (by omega), List.getElem?_replicate, if_pos (by omega)]
  · rw [if_neg hi, List.getElem?_append_right (by omega), hfront]
    split
    · next hin => exact List.getElem?_append_left (by omega)
    · next hout =>
      rw [List.getElem?_append_right (by omega), List.getElem?_drop]
      congr 1
      omega

theorem length_writeAt {data : List UInt8} (hdata : data ≠ []) (file : List UInt8) (off : Nat) :
    (writeAt file off data).length = max file.length (off + data.length) := by
  rw [writeAt, if_neg hdata]
  simp only [List.length_append, List.length_take, List.length_replicate, List.length_drop]
  omega

theorem le_length_writeAt (file : List UInt8) (off : Nat) (data : List UInt8) :
    file.length ≤ (writeAt file off data).length := by
  by_cases hdata : data = []
  · rw [hdata, writeAt_nil]
  · rw [length_writeAt hdata]
    exact le_max_left _ _

/-- What is written is read back. -/
theorem slice_writeAt_self (file : List UInt8) (off : Nat) (data : List UInt8) :
    slice (writeAt file off data) off data.length = data := by
  by_cases hdata : data = []
  · rw [hdata, writeAt_nil]
    exact slice_zero file off
  · apply List.ext_getElem?
    intro i
    rw [getElem?_slice]
    split
    · next hi =>
      rw [getElem?_writeAt hdata, if_neg (by omega), if_pos (by omega), Nat.add_sub_cancel_left]
    · next hi => exact (List.getElem?_eq_none (by omega)).symm

/-- A write leaves alone what it does not overlap. -/
theorem slice_writeAt_of_disjoint {file data : List UInt8} {off off' len : Nat}
    (hlen : off' + len ≤ file.length) (hdisjoint : off' + len ≤ off ∨ off + data.length ≤ off') :
    slice (writeAt file off data) off' len = slice file off' len := by
  by_cases hdata : data = []
  · rw [hdata, writeAt_nil]
  · apply List.ext_getElem?
    intro i
    rw [getElem?_slice, getElem?_slice]
    split
    · next hi =>
      rw [getElem?_writeAt hdata]
      obtain hbefore | hafter := hdisjoint
      · rw [if_pos (by omega), if_pos (by omega)]
      · rw [if_neg (by omega), if_neg (by omega)]
    · rfl


/-! ## Ordered writes -/

/-- Writes, each with its position, one after the other. -/
def writeAll (writes : List (Nat × List UInt8)) (file : List UInt8) : List UInt8 :=
  writes.foldl (fun file write => writeAt file write.1 write.2) file

theorem writeAll_cons (write : Nat × List UInt8) (writes : List (Nat × List UInt8))
    (file : List UInt8) :
    writeAll (write :: writes) file = writeAll writes (writeAt file write.1 write.2) := rfl

theorem writeAll_append (writes writes' : List (Nat × List UInt8)) (file : List UInt8) :
    writeAll (writes ++ writes') file = writeAll writes' (writeAll writes file) :=
  List.foldl_append

/-- Every write ends where the later ones start, or before. -/
def OrderedWrites (writes : List (Nat × List UInt8)) : Prop :=
  writes.Pairwise fun write later => write.1 + write.2.length ≤ later.1

/-- Writes up to a position, and then writes from there on. -/
theorem orderedWrites_append {writes writes' : List (Nat × List UInt8)} {pos : Nat}
    (hwrites : OrderedWrites writes) (hwrites' : OrderedWrites writes')
    (hend : ∀ write ∈ writes, write.1 + write.2.length ≤ pos)
    (hstart : ∀ write ∈ writes', pos ≤ write.1) : OrderedWrites (writes ++ writes') :=
  List.pairwise_append.mpr ⟨hwrites, hwrites', fun write hwrite later hlater =>
    (hend write hwrite).trans (hstart later hlater)⟩

theorem slice_writeAll_of_le {writes : List (Nat × List UInt8)} {file : List UInt8} {off len : Nat}
    (hlen : off + len ≤ file.length) (hlater : ∀ write ∈ writes, off + len ≤ write.1) :
    slice (writeAll writes file) off len = slice file off len := by
  induction writes generalizing file with
  | nil => rfl
  | cons write writes ih =>
    rw [writeAll_cons, ih (hlen.trans (le_length_writeAt _ _ _)) fun w hw =>
      hlater w (List.mem_cons_of_mem _ hw)]
    exact slice_writeAt_of_disjoint hlen (.inl (hlater write List.mem_cons_self))

/-- Each of a sequence of ordered writes is read back in the end. -/
theorem slice_writeAll {writes : List (Nat × List UInt8)} (hordered : OrderedWrites writes)
    {write : Nat × List UInt8} (hwrite : write ∈ writes) (file : List UInt8) :
    slice (writeAll writes file) write.1 write.2.length = write.2 := by
  induction hordered generalizing file with
  | nil => cases hwrite
  | @cons first writes hfirst _ ih =>
    obtain rfl | hrest := List.mem_cons.mp hwrite
    · by_cases hdata : write.2 = []
      · rw [hdata]
        exact slice_zero _ _
      · have hend : write.1 + write.2.length ≤ (writeAt file write.1 write.2).length := by
          rw [length_writeAt hdata]
          exact le_max_right _ _
        rw [writeAll_cons, slice_writeAll_of_le hend hfirst, slice_writeAt_self]
    · exact ih hrest _

end Huashan
