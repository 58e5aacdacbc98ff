import Huashan.Numerals
import Huashan.Ril.CellIdentity

/-!
# Huashan.Ril.Mnc

Mobile network codes as `ril_mnc.h` has them: a number below 1000 with its number of digits in the
top nibble. `decodeMnc` is what the cell identities use; `encodeMnc` and `encodeMncString` make such
codes of numbers and of strings.

`mnc_decodes_iff`: a number is decoded again unless two digits are given for three, and a string
that has a code is decoded again when it is two or three digits. `std::stoi` takes signs and spaces
and stops at other characters, but all of them count as digits.
-/

namespace Huashan
namespace Ril

/-- `ril::util::mnc::encode` of a number. -/
def encodeMnc (mnc numDigits : Int32) : Int32 :=
  if mnc > 999 ∨ mnc < 0 then intMax
  else if numDigits = 0 ∨ numDigits = 2 ∨ numDigits = 3 then (numDigits <<< 28) ||| mnc
  else intMax

/-- `ril::util::mnc::encode` of a string, unless `std::stoi` throws. -/
def encodeMncString (mnc : Bytes) : Option Int32 :=
  (stoi mnc).map fun n => encodeMnc n (Int32.ofNat mnc.length)

/-! ## Words -/

theorem toDecimal_natCast (n : Nat) : toDecimal n = digitBytes 10 n := by
  show (Nat.repr n).toList.map _ = _
  rw [Nat.toList_repr]
  rfl

/-- Decoding the number of digits `d` and the value `m`. -/
theorem decodeMnc_eq {code : Int32} {d m : Nat} (hcode : code.toUInt32.toNat = d * 2 ^ 28 + m)
    (hd : d ≤ 3) (hm : m ≤ 999) : decodeMnc code =
      if d = 0 then digitBytes 10 m
      else if d = 2 then ((digitBytes 10 m).leftpad 3 0x30).drop 1
      else if d = 3 then (digitBytes 10 m).leftpad 3 0x30
      else [] := by
  have hnonneg : ¬(code = intMax ∨ code < 0) := by
    have htoInt : code.toInt = code.toUInt32.toNat :=
      BitVec.toInt_eq_toNat_of_lt (by show 2 * code.toUInt32.toNat < 2 ^ 32; omega)
    rintro (rfl | hneg)
    · rw [show intMax.toUInt32.toNat = 7 * 2 ^ 28 + 268435455 from rfl] at hcode
      omega
    · rw [Int32.lt_iff_toInt_lt, htoInt, Int32.toInt_zero] at hneg
      omega
  have hdigits : ((code.toUInt32 >>> 28) &&& 0xf).toNat = d := by
    simp only [UInt32.toNat_and, UInt32.toNat_shiftRight, hcode, Nat.shiftRight_eq_div_pow,
      UInt32.reduceToNat, Nat.reduceMod, Nat.reducePow]
    rw [Nat.and_two_pow_sub_one_eq_mod _ 4]
    omega
  have hvalue : ((code.toUInt32 <<< 4) >>> 4).toNat = m := by
    simp only [UInt32.toNat_shiftRight, UInt32.toNat_shiftLeft, hcode, Nat.shiftLeft_eq,
      Nat.shiftRight_eq_div_pow, UInt32.reduceToNat, Nat.reduceMod, Nat.reducePow]
    omega
  have hsmall : ¬(code.toUInt32 <<< 4) >>> 4 > 999 := by
    rw [gt_iff_lt, UInt32.lt_iff_toNat_lt, hvalue]
    simp only [UInt32.reduceToNat]
    omega
  have hd' : ∀ k : UInt32, (code.toUInt32 >>> 28) &&& 0xf = k ↔ d = k.toNat := fun k => by
    rw [← UInt32.toNat_inj, hdigits]
  simp only [decodeMnc, if_neg hnonneg, if_neg hsmall, formatMnc, hvalue, toDecimal_natCast, hd',
    UInt32.reduceToNat]

theorem toUInt32_toNat {x : Int32} {m : Nat} (h : x.toInt = m) : x.toUInt32.toNat = m := by
  have htoNat : x.toInt = x.toUInt32.toNat := by
    have hbits : x.toInt = x.toBitVec.toInt := rfl
    have hword : x.toBitVec.toNat = x.toUInt32.toNat := rfl
    rw [BitVec.toInt_eq_toNat_cond] at hbits
    split at hbits
    · rw [hbits, hword]
    · have hlt := x.toBitVec.isLt
      omega
  rw [h] at htoNat
  exact_mod_cast htoNat.symm

/-- The code of a number below 1000. -/
theorem encodeMnc_toNat {mnc : Int32} {d m : Nat} (hmnc : mnc.toInt = m) (hm : m ≤ 999)
    (hd : d = 0 ∨ d = 2 ∨ d = 3) :
    (encodeMnc mnc (Int32.ofNat d)).toUInt32.toNat = d * 2 ^ 28 + m := by
  have hrange : ¬(mnc > 999 ∨ mnc < 0) := by
    rw [gt_iff_lt, Int32.lt_iff_toInt_lt, Int32.lt_iff_toInt_lt, hmnc, Int32.toInt_zero,
      show (999 : Int32).toInt = 999 from rfl]
    omega
  have hword := toUInt32_toNat hmnc
  have hcode : encodeMnc mnc (Int32.ofNat d) = (Int32.ofNat d <<< 28) ||| mnc := by
    rw [encodeMnc, if_neg hrange, if_pos]
    obtain rfl | rfl | rfl := hd
    · exact .inl rfl
    · exact .inr (.inl rfl)
    · exact .inr (.inr rfl)
  have hor : ∀ x : Int32, (x ||| mnc).toUInt32.toNat = x.toUInt32.toNat ||| mnc.toUInt32.toNat :=
    fun x => UInt32.toNat_or x.toUInt32 mnc.toUInt32
  have hshift : (Int32.ofNat d <<< 28).toUInt32.toNat = 2 ^ 28 * d := by
    obtain rfl | rfl | rfl := hd <;> rfl
  rw [hcode, hor, hshift, hword, ← Nat.two_pow_add_eq_or_of_lt (by omega), Nat.mul_comm]

/-- What is encoded, and what is not. -/
theorem encodeMnc_cases (mnc numDigits : Int32) :
    encodeMnc mnc numDigits = intMax ∨
      ∃ d m : Nat, numDigits = Int32.ofNat d ∧ (d = 0 ∨ d = 2 ∨ d = 3) ∧ mnc.toInt = m ∧
        m ≤ 999 := by
  unfold encodeMnc
  by_cases hrange : mnc > 999 ∨ mnc < 0
  · exact .inl (if_pos hrange)
  rw [if_neg hrange]
  by_cases hd : numDigits = 0 ∨ numDigits = 2 ∨ numDigits = 3
  · rw [gt_iff_lt, Int32.lt_iff_toInt_lt, Int32.lt_iff_toInt_lt, Int32.toInt_zero,
      show (999 : Int32).toInt = 999 from rfl] at hrange
    have hmnc : mnc.toInt = mnc.toInt.toNat := by omega
    have hm : mnc.toInt.toNat ≤ 999 := by omega
    obtain rfl | rfl | rfl := hd
    · exact .inr ⟨0, _, rfl, .inl rfl, hmnc, hm⟩
    · exact .inr ⟨2, _, rfl, .inr (.inl rfl), hmnc, hm⟩
    · exact .inr ⟨3, _, rfl, .inr (.inr rfl), hmnc, hm⟩
  · exact .inl (if_neg hd)

/-! ## Decoding -/

/-- What `decodeMnc` gives for the digits `d` and the value `m`. -/
def decodedMnc (d m : Nat) : Bytes :=
  if d = 0 then digitBytes 10 m
  else if d = 2 then ((digitBytes 10 m).leftpad 3 0x30).drop 1
  else (digitBytes 10 m).leftpad 3 0x30

theorem decodeMnc_encodeMnc {mnc : Int32} {d m : Nat} (hmnc : mnc.toInt = m) (hm : m ≤ 999)
    (hd : d = 0 ∨ d = 2 ∨ d = 3) :
    decodeMnc (encodeMnc mnc (Int32.ofNat d)) = decodedMnc d m := by
  rw [decodeMnc_eq (encodeMnc_toNat hmnc hm hd) (by omega) hm, decodedMnc]
  obtain rfl | rfl | rfl := hd <;> rfl

theorem length_digitBytes_mnc {m : Nat} (hm : m ≤ 999) : (digitBytes 10 m).length ≤ 3 :=
  length_digitBytes_le (by omega) (by omega) (by omega)

theorem length_decodedMnc {d m : Nat} (hm : m ≤ 999) (hd : d = 2 ∨ d = 3) :
    (decodedMnc d m).length = d := by
  have hlength := length_digitBytes_mnc hm
  obtain rfl | rfl := hd <;> simp [decodedMnc] <;> omega

theorem isNumeral_decimal (m : Nat) : IsNumeral 10 (digitBytes 10 m) m :=
  isNumeral_digitBytes (by decide) (by decide) m

theorem isNumeral_leftpad (m width : Nat) :
    IsNumeral 10 ((digitBytes 10 m).leftpad width 0x30) m :=
  (isNumeral_decimal m).leftpad (by decide) width

theorem isDigitOf_decodedMnc {d m : Nat} : ∀ c ∈ decodedMnc d m, isDigitOf 10 c := by
  unfold decodedMnc
  split_ifs
  · exact (isNumeral_decimal m).isDigitOf
  · exact fun c hc => (isNumeral_leftpad m 3).isDigitOf c (List.mem_of_mem_drop hc)
  · exact (isNumeral_leftpad m 3).isDigitOf

/-- Two digits are too few from 100 on. -/
theorem isNumeral_decodedMnc_iff {d m : Nat} (hm : m ≤ 999) (hd : d = 0 ∨ d = 2 ∨ d = 3) :
    IsNumeral 10 (decodedMnc d m) m ↔ ¬(d = 2 ∧ 100 ≤ m) := by
  obtain rfl | rfl | rfl := hd
  · exact iff_of_true (isNumeral_decimal m) (by omega)
  · constructor
    · rintro h ⟨_, hlarge⟩
      have hlt := ofDigits_lt h.isDigitOf
      rw [h.value, length_decodedMnc hm (.inl rfl)] at hlt
      omega
    · intro hsmall
      have hlength : (digitBytes 10 m).length ≤ 2 :=
        length_digitBytes_le (by omega) (by omega) (by omega)
      have hpad : decodedMnc 2 m = (digitBytes 10 m).leftpad 2 0x30 := by
        show ((digitBytes 10 m).leftpad 3 0x30).drop 1 = _
        rw [List.leftpad, show 3 - (digitBytes 10 m).length = 2 - (digitBytes 10 m).length + 1 by
          omega, List.replicate_succ]
        rfl
      rw [hpad]
      exact isNumeral_leftpad m 2
  · exact iff_of_true (isNumeral_leftpad m 3) (by omega)

/-! ## Round trips -/

/-- The code of a number decodes to a numeral of it, with the number of digits that was given. -/
def DecodesMnc (mnc numDigits : Int32) : Prop :=
  encodeMnc mnc numDigits ≠ intMax →
    ∃ m : Nat, mnc.toInt = m ∧ IsNumeral 10 (decodeMnc (encodeMnc mnc numDigits)) m ∧
      (numDigits ≠ 0 →
        ((decodeMnc (encodeMnc mnc numDigits)).length : Int) = numDigits.toInt)

/-- The code of a string decodes to it. -/
def DecodesMncString (s : Bytes) : Prop :=
  ∀ code, encodeMncString s = some code → code ≠ intMax → decodeMnc code = s

theorem encodeMnc_ne_intMax {mnc : Int32} {d m : Nat} (hmnc : mnc.toInt = m) (hm : m ≤ 999)
    (hd : d = 0 ∨ d = 2 ∨ d = 3) : encodeMnc mnc (Int32.ofNat d) ≠ intMax := by
  intro h
  have htoNat := encodeMnc_toNat hmnc hm hd
  rw [h, show intMax.toUInt32.toNat = 7 * 2 ^ 28 + 268435455 from rfl] at htoNat
  omega

theorem decodesMnc_iff (mnc numDigits : Int32) :
    DecodesMnc mnc numDigits ↔ ¬(numDigits = 2 ∧ 100 ≤ mnc.toInt ∧ mnc.toInt ≤ 999) := by
  obtain hmax | ⟨d, m, rfl, hd, hmnc, hm⟩ := encodeMnc_cases mnc numDigits
  · refine iff_of_true (fun h => absurd hmax h) ?_
    rintro ⟨rfl, hlow, hhigh⟩
    exact encodeMnc_ne_intMax (show mnc.toInt = mnc.toInt.toNat by omega) (by omega)
      (.inr (.inl rfl)) hmax
  · have htwo : Int32.ofNat d = 2 ↔ d = 2 := by
      obtain rfl | rfl | rfl := hd <;> decide
    have hlow : (100 ≤ mnc.toInt ∧ mnc.toInt ≤ 999) ↔ 100 ≤ m := by omega
    rw [htwo, hlow, ← isNumeral_decodedMnc_iff hm hd, DecodesMnc,
      decodeMnc_encodeMnc hmnc hm hd]
    constructor
    · intro h
      obtain ⟨m', hm', hnumeral, _⟩ := h (encodeMnc_ne_intMax hmnc hm hd)
      obtain rfl : m' = m := by omega
      exact hnumeral
    · intro hnumeral _
      refine ⟨m, hmnc, hnumeral, fun hne => ?_⟩
      obtain rfl | hd := hd
      · exact absurd rfl hne
      · rw [length_decodedMnc hm hd]
        obtain rfl | rfl := hd <;> rfl

/-- Two or three decimal digits. -/
def IsMnc (s : Bytes) : Prop :=
  (s.length = 2 ∨ s.length = 3) ∧ ∀ c ∈ s, isDigitOf 10 c

/-- A number below 1000 is read from the string, and its length is taken for a number of digits. -/
def Encodable (s : Bytes) : Prop :=
  ∃ n, stoi s = some n ∧ 0 ≤ n.toInt ∧ n.toInt ≤ 999 ∧
    (Int32.ofNat s.length = 0 ∨ Int32.ofNat s.length = 2 ∨ Int32.ofNat s.length = 3)

theorem stoi_eq_strtol {s : Bytes} {n : Int32} (h : stoi s = some n) : n = strtol 10 s := by
  simp only [stoi] at h
  split_ifs at h <;> exact (Option.some.inj h).symm

/-- The number that is read from two or three digits. -/
theorem IsMnc.toInt_stoi {s : Bytes} (hs : IsMnc s) {n : Int32} (h : stoi s = some n) :
    n.toInt = ofDigits 10 s := by
  obtain ⟨hlength, hdigits⟩ := hs
  have hne : s ≠ [] := by
    rintro rfl
    simp at hlength
  have hlt := ofDigits_lt hdigits
  have hle : (10 : Nat) ^ s.length ≤ 1000 := by
    obtain hlength | hlength := hlength <;> simp [hlength]
  rw [stoi_eq_strtol h, strtol_of_spells (by decide) (.inl ⟨hne, hdigits, rfl⟩),
    Int32.toInt_ofInt, Int.bmod_def, show ((Int32.size : Nat) : Int) = 2 ^ 32 from rfl, longMax]
  omega

/-- Two or three digits are what their code decodes to. -/
theorem IsMnc.decodesMncString {s : Bytes} (hs : IsMnc s) : DecodesMncString s := by
  intro code hcode _
  obtain ⟨n, hn, rfl⟩ := Option.map_eq_some_iff.mp hcode
  have hvalue := hs.toInt_stoi hn
  obtain ⟨hlength, hdigits⟩ := hs
  have hlt := ofDigits_lt hdigits
  have hm : ofDigits 10 s ≤ 999 := by
    obtain hlength | hlength := hlength <;> rw [hlength] at hlt <;> omega
  have hnumeral : IsNumeral 10 (decodedMnc s.length (ofDigits 10 s)) (ofDigits 10 s) := by
    rw [isNumeral_decodedMnc_iff hm (.inr hlength)]
    rintro ⟨htwo, hlarge⟩
    rw [htwo] at hlt
    omega
  rw [decodeMnc_encodeMnc hvalue hm (.inr hlength)]
  exact eq_of_ofDigits_eq (by decide) isDigitOf_decodedMnc hdigits
    (length_decodedMnc hm hlength) hnumeral.value

/-- The code of a string decodes to it when the string is two or three digits, and no other string
that has a code is decoded again. -/
theorem decodesMncString_iff (s : Bytes) :
    DecodesMncString s ↔ (Encodable s → IsMnc s) := by
  constructor
  · rintro h ⟨n, hn, hlow, hhigh, hlength⟩
    have hcode : encodeMncString s = some (encodeMnc n (Int32.ofNat s.length)) := by
      rw [encodeMncString, hn, Option.map_some]
    obtain ⟨d, hd, hdigits⟩ :
        ∃ d, (d = 0 ∨ d = 2 ∨ d = 3) ∧ Int32.ofNat s.length = Int32.ofNat d := by
      obtain hlength | hlength | hlength := hlength
      · exact ⟨0, .inl rfl, hlength⟩
      · exact ⟨2, .inr (.inl rfl), hlength⟩
      · exact ⟨3, .inr (.inr rfl), hlength⟩
    have hm : n.toInt = n.toInt.toNat := by omega
    rw [hdigits] at hcode
    have hdecode := h _ hcode (encodeMnc_ne_intMax hm (by omega) hd)
    rw [decodeMnc_encodeMnc hm (by omega) hd] at hdecode
    rw [← hdecode]
    refine ⟨?_, isDigitOf_decodedMnc⟩
    obtain rfl | hd := hd
    · -- no string of at most three digits has a length that is taken for zero
      have hpos : s ≠ [] := by
        rw [← hdecode]
        exact (isNumeral_decimal _).ne_nil
      have hle : s.length ≤ 3 := by
        rw [← hdecode]
        exact length_digitBytes_mnc (by omega)
      have hmod : s.length % 2 ^ 32 = 0 := congrArg (fun x => x.toUInt32.toNat) hdigits
      have hlength := List.length_pos_iff.mpr hpos
      omega
    · rw [length_decodedMnc (by omega) hd]
      exact hd
  · intro h code hcode hne
    obtain ⟨n, hn, hcode'⟩ := Option.map_eq_some_iff.mp hcode
    obtain hmax | ⟨d, m, hlength, hd, hm, hle⟩ := encodeMnc_cases n (Int32.ofNat s.length)
    · exact absurd (hcode'.symm.trans hmax) hne
    · refine (h ⟨n, hn, by omega, by omega, ?_⟩).decodesMncString code hcode hne
      obtain rfl | rfl | rfl := hd
      · exact .inl hlength
      · exact .inr (.inl hlength)
      · exact .inr (.inr hlength)

/-- The code of a string decodes to it exactly when the string has none or is two or three digits,
and the code of a number to a numeral of it unless two digits are given for three. -/
theorem mnc_decodes_iff (s : Bytes) (mnc numDigits : Int32) :
    (DecodesMncString s ↔ (Encodable s → IsMnc s)) ∧
      (DecodesMnc mnc numDigits ↔
        ¬(numDigits = 2 ∧ 100 ≤ mnc.toInt ∧ mnc.toInt ≤ 999)) :=
  ⟨decodesMncString_iff s, decodesMnc_iff mnc numDigits⟩

/-- `"+1"` comes back as `"01"`. -/
theorem sign_decoded_as_digit :
    ¬((∀ s, DecodesMncString s) ∧ ∀ mnc numDigits, DecodesMnc mnc numDigits) := by
  rintro ⟨h, _⟩
  have hsign := h [0x2b, 0x31] 0x20000001 (by decide) (by decide)
  revert hsign
  decide

end Ril
end Huashan
