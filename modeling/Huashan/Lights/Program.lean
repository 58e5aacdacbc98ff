import Huashan.Lights.Blink

/-!
# Huashan.Lights.Program

The text of the blink program against the structure `documentation.txt` gives for it: a byte and
17 words, of which four hold a delay and the last one the LEDs. `writeLightsProgram_layout` says
that the text is that structure and nothing else, so a reader of the words finds the delays and the
target it was written with.
-/

namespace Huashan
namespace Lights

/-- The detailed blinker program structure of `documentation.txt`, after the initialization byte,
with the ramps of the smooth blink. -/
def blinkerProgram (on off target : Nat) : List Nat :=
  [0x0e0e, -- start the PWM
    0x9d00, -- clear the MUX table
    0x9c0e, -- MUX start address
    0x9c8f, -- MUX end address
    0x9d80, 0x02ff, -- turning on
    0x9dc0, on * 16 ^ 2 + 0xff, -- turned on
    0x9d80, 0x03ff, -- turning off
    0x9dc0, off * 16 ^ 2 + 0xff, -- turned off
    0x9d80,
    0xa004, -- infinite loop
    0xc000, -- end command
    0x0000, -- program start
    target]

/-- The initialization byte and the words of a text. -/
def readProgram (text : String) : Nat × List Nat :=
  (ofHex (text.toList.take 2), readWords (text.toList.drop 2))

theorem blinkerProgram_lt {on off target : Nat} (hon : on ≤ 63) (hoff : off ≤ 63)
    (ht : target ≤ 0x1ff) : ∀ w ∈ blinkerProgram on off target, w < 16 ^ 4 := by
  simp only [blinkerProgram, List.forall_mem_cons, List.not_mem_nil, false_implies, implies_true,
    and_true]
  omega

/-- The text of the structure: two digits of the byte and four of each word. -/
theorem toList_ledsSeqLoadProgram {target : Nat} (on off : Nat) (ht : target ≤ 0x1ff) :
    (ledsSeqLoadProgram 2 on 3 off target).toList =
      (formatHex 2 0).toList ++ formatWords (blinkerProgram on off target) := by
  have hff : (formatHex 2 0xff).toList = ['f', 'f'] := toList_formatHex_two (by omega)
  have hdelay : ∀ n, formatWords [n * 16 ^ 2 + 0xff] =
      (formatHex 2 n).toList ++ ['f', 'f'] := fun n => by
    rw [← hff, formatWords, List.flatMap_singleton]
    exact toList_formatHex_append (by omega) n 1 (by omega)
  have htarget : formatWords [target] = ['0'] ++ (formatHex 3 target).toList := by
    have hzero : (formatHex 1 0).toList = ['0'] := rfl
    have h := toList_formatHex_append (by omega : 0 < 1) 0 2 (by omega : target < 16 ^ 3)
    rw [hzero, Nat.zero_mul, Nat.zero_add] at h
    rw [formatWords, List.flatMap_singleton]
    exact h
  -- the fixed digits between the numbers
  have hstart : "000e0e9d009c0e9c8f9d80".toList =
      (formatHex 2 0).toList ++ formatWords [0x0e0e, 0x9d00, 0x9c0e, 0x9c8f, 0x9d80] := by
    decide +kernel
  have hup : (formatHex 2 2).toList ++ "ff9dc0".toList = formatWords [0x02ff, 0x9dc0] := by
    decide +kernel
  have hnext : "ff9d80".toList = ['f', 'f'] ++ formatWords [0x9d80] := by decide +kernel
  have hdown : (formatHex 2 3).toList ++ "ff9dc0".toList = formatWords [0x03ff, 0x9dc0] := by
    decide +kernel
  have hend : "ff9d80a004c00000000".toList =
      ['f', 'f'] ++ (formatWords [0x9d80, 0xa004, 0xc000, 0x0000] ++ ['0']) := by decide +kernel
  calc (ledsSeqLoadProgram 2 on 3 off target).toList
      = "000e0e9d009c0e9c8f9d80".toList ++ ((formatHex 2 2).toList ++ "ff9dc0".toList) ++
          (formatHex 2 on).toList ++ "ff9d80".toList ++
          ((formatHex 2 3).toList ++ "ff9dc0".toList) ++ (formatHex 2 off).toList ++
          "ff9d80a004c00000000".toList ++ (formatHex 3 target).toList := by
        unfold ledsSeqLoadProgram
        simp only [String.toList_append]
        simp only [List.append_assoc]
    _ = (formatHex 2 0).toList ++ (formatWords [0x0e0e, 0x9d00, 0x9c0e, 0x9c8f, 0x9d80] ++
          formatWords [0x02ff, 0x9dc0] ++ formatWords [on * 16 ^ 2 + 0xff] ++
          formatWords [0x9d80] ++ formatWords [0x03ff, 0x9dc0] ++
          formatWords [off * 16 ^ 2 + 0xff] ++ formatWords [0x9d80, 0xa004, 0xc000, 0x0000] ++
          formatWords [target]) := by
        rw [hstart, hup, hnext, hdown, hend, hdelay on, hdelay off, htarget]
        simp only [List.append_assoc]
    _ = (formatHex 2 0).toList ++ formatWords (blinkerProgram on off target) := by
        simp only [← formatWords_append, List.cons_append, List.nil_append, blinkerProgram]

/-- The delay byte is the floor of 13 steps a second, and at most 63. -/
theorem programDelay_eq (delay : Int32) :
    programDelay delay = min 63 (13 * delay.toInt.toNat / 1000) := Nat.min_comm _ _

theorem programDelay_mono {delay delay' : Int32} (h : delay ≤ delay') :
    programDelay delay ≤ programDelay delay' := by
  have hle : delay.toInt ≤ delay'.toInt := Int32.le_iff_toInt_le.mp h
  rw [programDelay_eq, programDelay_eq]
  omega

namespace Light

/-- For a target of the LEDs, `writeLightsProgram` sends 70 hexadecimal digits, which are read back
as the structure of the blinker program with the clamped delays and the target. Two calls send the
same text only for the same values, and a longer delay never has a smaller byte. -/
theorem writeLightsProgram_layout (s : Light) {target : Nat} (on off : Int32)
    (ht : target ≤ 0x1ff) :
    (s.writeLightsProgram target on off).sysfs.sequencerLoad.length = 70 ∧
      (∀ c ∈ (s.writeLightsProgram target on off).sysfs.sequencerLoad.toList, IsHexDigit c) ∧
      readProgram (s.writeLightsProgram target on off).sysfs.sequencerLoad =
        (0, blinkerProgram (min 63 (13 * on.toInt.toNat / 1000))
          (min 63 (13 * off.toInt.toNat / 1000)) target) ∧
      (∀ (s' : Light) (target' : Nat) (on' off' : Int32),
        (s'.writeLightsProgram target' on' off').sysfs.sequencerLoad =
            (s.writeLightsProgram target on off).sysfs.sequencerLoad ↔
          target' = target ∧ programDelay on' = programDelay on ∧
            programDelay off' = programDelay off) ∧
      (∀ delay delay' : Int32, delay ≤ delay' → programDelay delay ≤ programDelay delay') := by
  have hload : (s.writeLightsProgram target on off).sysfs.sequencerLoad.toList =
      (formatHex 2 0).toList ++
        formatWords (blinkerProgram (programDelay on) (programDelay off) target) :=
    toList_ledsSeqLoadProgram (programDelay on) (programDelay off) ht
  have hlt := blinkerProgram_lt (programDelay_le on) (programDelay_le off) ht
  have hbyte : (formatHex 2 0).toList = ['0', '0'] := rfl
  rw [hbyte] at hload
  refine ⟨?_, ?_, ?_, fun s' target' on' off' => lightsProgram_inj,
    fun delay delay' h => programDelay_mono h⟩
  · rw [← String.length_toList, hload, List.length_append, length_formatWords hlt]
    rfl
  · intro c hc
    rw [hload] at hc
    rcases List.mem_append.mp hc with hc | hc
    · have hzero : c = '0' := by simpa using hc
      rw [hzero]
      exact isHexDigit_digitChar 0 (by omega)
    · exact isHexDigit_formatWords hlt c hc
  · rw [readProgram, hload, ← programDelay_eq, ← programDelay_eq]
    exact congrArg (Prod.mk 0) (readWords_formatWords hlt)

theorem writeLightsProgram_layout_all :
    readProgram ((new darkNodes (steady 0) (steady 0) (steady 0)).writeLightsProgram 0x1ff 1000
      5000).sysfs.sequencerLoad = (0, blinkerProgram 13 63 0x1ff) :=
  (writeLightsProgram_layout _ 1000 5000 (by decide)).2.2.1

end Light
end Lights
end Huashan
