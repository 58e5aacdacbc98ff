import Huashan.MacAddr.ReadMac

/-!
# Huashan.MacAddr.Files

What `read_mac` leaves in its file. The file is emptied before the size of the value is known, and
nobody looks at what `fclose` returns.

`writesOrKeeps_iff` says when a call either writes the whole line of its address or leaves the file
as it was.
-/

namespace Huashan
namespace MacAddr

/-! ## The line of an address -/

/-- A byte as two hexadecimal digits. -/
def hexDigits (b : UInt8) : List Char := [(b.toNat / 16).digitChar, (b.toNat % 16).digitChar]

/-- The six bytes of a MAC address from the last one to the first, or the four bytes of a serial
number. -/
def addressLine (valSize : UInt32) (buf : Fin 10 → UInt8) : List Char :=
  if valSize = typeMac then
    [':'].intercalate (((List.ofFn buf).take 6).reverse.map hexDigits) ++ ['\n']
  else ((List.ofFn buf).take 4).flatMap hexDigits ++ ['\n']

theorem toList_hexByte (b : UInt8) : (hexByte b).toList = hexDigits b :=
  toList_formatHex_two b.toNat_lt

theorem outputLine_eq {valSize : UInt32} (h : valSize = typeMac ∨ valSize = typeSerial)
    (buf : Fin 10 → UInt8) : outputLine valSize buf =
      some (addressLine valSize buf, Int32.ofNat (addressLine valSize buf).length) := by
  obtain rfl | rfl := h
  · simp [outputLine, addressLine, toList_hexByte, hexDigits, List.ofFn_succ, List.intercalate]
  · have hne : typeSerial ≠ typeMac := by decide
    simp [outputLine, addressLine, toList_hexByte, hexDigits, List.ofFn_succ, hne]

namespace State

/-! ## Opening the partition -/

@[simp] theorem files_taOpen (s : State) (p : UInt8) (ret : Int32) :
    (s.taOpen p ret).files = s.files := by
  unfold taOpen
  split <;> rfl

@[simp] theorem files_taClose (s : State) : s.taClose.files = s.files := rfl

theorem tryOpen_spec (taId : UInt32) (ret : Nat → Int32) {left : Nat} (hleft : left ≤ 101)
    (s : State) : (tryOpen taId ret left s).1.files = s.files ∧
      ((tryOpen taId ret left s).2 = false ↔ ∀ i ≤ 101, 101 - left ≤ i → ret i ≠ 0) := by
  induction left generalizing s with
  | zero =>
    have honly : (∀ i ≤ 101, 101 - 0 ≤ i → ret i ≠ 0) ↔ ret 101 ≠ 0 := by
      constructor
      · intro h
        exact h 101 le_rfl le_rfl
      · intro h i hi hi'
        rw [Nat.le_antisymm hi hi']
        exact h
    unfold tryOpen
    rw [honly]
    by_cases hret : ret 101 = 0
    · simp [hret]
    · simp [hret]
  | succ left ih =>
    have hrest : (∀ i ≤ 101, 101 - (left + 1) ≤ i → ret i ≠ 0) ↔
        ret (101 - (left + 1)) ≠ 0 ∧ ∀ i ≤ 101, 101 - left ≤ i → ret i ≠ 0 := by
      constructor
      · intro h
        exact ⟨h _ (by omega) le_rfl, fun i hi hi' => h i hi (by omega)⟩
      · rintro ⟨hfirst, h⟩ i hi hi'
        by_cases heq : i = 101 - (left + 1)
        · rw [heq]
          exact hfirst
        · exact h i hi (by omega)
    unfold tryOpen
    rw [hrest]
    generalize ret (101 - (left + 1)) = first
    by_cases hret : first = 0
    · simp [hret]
    · obtain ⟨hfiles, hfails⟩ := ih (by omega) (s.taOpen taId.toUInt8 first).taClose
      simp only [hret, if_false]
      rw [hfiles, hfails]
      simp [hret]

/-- From any state, opening the partition keeps all files and fails only by giving up. -/
theorem openPartition_spec (s : State) (taId : UInt32) (o : Outcomes) :
    (s.openPartition taId o.taOpen).1.files = s.files ∧
      ((s.openPartition taId o.taOpen).2 = false ↔ taId ≠ s.taOpened ∧ o.GivesUp) := by
  unfold openPartition
  by_cases hid : taId = s.taOpened
  · simp [hid]
  · obtain ⟨hfiles, hfails⟩ := tryOpen_spec taId o.taOpen le_rfl
      (if s.taOpened ≠ 0 then s.taClose else s)
    rw [if_pos hid, hfiles, hfails]
    refine ⟨?_, ?_⟩
    · split <;> rfl
    · simp [hid, Outcomes.GivesUp]

/-! ## The file -/

/-- The whole line of the address is in the file when the call succeeds, and what was there before
when it fails. -/
def WritesOrKeeps (s : State) (c : Call) (o : Outcomes) : Prop :=
  ((s.readMac c o).2 = 0 →
    (s.readMac c o).1.files c.valFile = some (addressLine c.valSize o.buf)) ∧
  ((s.readMac c o).2 ≠ 0 → (s.readMac c o).1.files c.valFile = s.files c.valFile)

/-- The file is never opened, or nothing fails afterwards and all of the line gets to the file, or
something fails and the file had just what is in it then. -/
def FileSafe (s : State) (c : Call) (o : Outcomes) : Prop :=
  let line := addressLine c.valSize o.buf
  (c.taId ≠ s.taOpened ∧ o.GivesUp) ∨ o.fopen = false ∨
    if o.size ≠ c.valSize ∨ o.taRead ≠ 0 then s.files c.valFile = some []
    else if o.fprintf ≠ Int32.ofNat line.length then
      s.files c.valFile = some (line.take o.written)
    else line.length ≤ o.written

theorem copyValue_spec {c : Call} (h : c.valSize = typeMac ∨ c.valSize = typeSerial) (s : State)
    (o : Outcomes) :
    let line := addressLine c.valSize o.buf
    (s.copyValue c o).2 = (if o.fopen = true ∧ o.size = c.valSize ∧ o.taRead = 0 ∧
      o.fprintf = Int32.ofNat line.length then 0 else 1) ∧
    (s.copyValue c o).1.files c.valFile =
      if o.fopen = false then s.files c.valFile
      else if o.size ≠ c.valSize ∨ o.taRead ≠ 0 then some []
      else some (line.take o.written) := by
  intro line
  have hline := outputLine_eq h o.buf
  unfold copyValue
  cases hopen : o.fopen with
  | false => simp
  | true =>
    by_cases hsize : o.size = c.valSize
    · by_cases hread : o.taRead = 0
      · simp [hsize, hread, hline, write, line]
      · simp [hsize, hread, write, access]
    · simp [hsize, write, access]

/-- A call that does not give up opening the partition copies the value from a state with the same
files. -/
theorem readMac_eq {s : State} {c : Call} {o : Outcomes}
    (h : ¬(c.taId ≠ s.taOpened ∧ o.GivesUp)) :
    ∃ t : State, t.files = s.files ∧ s.readMac c o = t.copyValue c o := by
  obtain ⟨hfiles, hfails⟩ := s.openPartition_spec c.taId o
  have hopened : (s.openPartition c.taId o.taOpen).2 = true := by
    simpa using mt hfails.mp h
  refine ⟨_, hfiles, ?_⟩
  simp [readMac, hopened]

/-- A call writes the whole line or keeps the file exactly in the cases of `FileSafe`. -/
theorem writesOrKeeps_iff (s : State) {c : Call} (h : c.valSize = typeMac ∨ c.valSize = typeSerial)
    (o : Outcomes) : s.WritesOrKeeps c o ↔ s.FileSafe c o := by
  unfold WritesOrKeeps FileSafe
  by_cases hgives : c.taId ≠ s.taOpened ∧ o.GivesUp
  · obtain ⟨hfiles, hfails⟩ := s.openPartition_spec c.taId o
    have hopened := hfails.mpr hgives
    simp [readMac, hopened, hfiles, hgives]
  · obtain ⟨t, hfiles, hread⟩ := readMac_eq hgives
    obtain ⟨hret, hfile⟩ := copyValue_spec h t o
    rw [hread, hret, hfile, hfiles]
    refine Iff.trans ?_ (or_iff_right hgives).symm
    cases hopen : o.fopen with
    | false => simp
    | true =>
      by_cases hsize : o.size = c.valSize
      · by_cases hread : o.taRead = 0
        · by_cases hprint : o.fprintf = Int32.ofNat (addressLine c.valSize o.buf).length
          · simp [hsize, hread, hprint]
          · simpa [hsize, hread, hprint] using eq_comm
        · simpa [hread] using eq_comm
      · simpa [hsize] using eq_comm

/-- The first start after the installation: there is no file, and nothing fails. -/
theorem writesOrKeeps_wlanMac :
    (init fun _ => none).WritesOrKeeps wlanMac ⟨fun _ => 0, true, 6, 0, fun _ => 0x1f, 18, 18⟩ :=
  (writesOrKeeps_iff _ (.inl rfl) _).mpr (.inr (.inr (by decide)))

/-- The partition has a value of another size: the serial number that was in the file is gone. -/
theorem serial_number_lost : ¬∀ (s : State) (c : Call) (o : Outcomes),
    (c.valSize = typeMac ∨ c.valSize = typeSerial) → s.WritesOrKeeps c o := by
  intro h
  have hkeeps := (h (init fun _ => some "00000000\n".toList) wlanSerial
    ⟨fun _ => 0, true, 6, 0, fun _ => 0, 9, 9⟩ (by decide)).2 (by decide)
  revert hkeeps
  decide

end State

end MacAddr
end Huashan
