import Mathlib

/-!
# Huashan.Numerals

`strtol` of C with a `long` of 32 bits, for strings of bytes without the terminating zero, and the
digits of a number.

`strtol_of_spells`: a numeral is read as its value, as far as a `long` goes. `isNumeral_digitBytes`:
the digits of a number are a numeral of it, and up to base 10 the only one of their length
(`eq_of_ofDigits_eq`).
-/

namespace Huashan

def isSpace (c : UInt8) : Bool := c = 0x20 || (0x09 ≤ c && c ≤ 0x0d)

/-- Of a digit or a letter. -/
def digitValue (c : UInt8) : Option Nat :=
  if 0x30 ≤ c ∧ c ≤ 0x39 then some (c.toNat - 0x30)
  else if 0x61 ≤ c ∧ c ≤ 0x7a then some (c.toNat - 0x61 + 10)
  else if 0x41 ≤ c ∧ c ≤ 0x5a then some (c.toNat - 0x41 + 10)
  else none

def isDigitOf (base : Nat) (c : UInt8) : Bool := (digitValue c).any (· < base)

def ofDigits (base : Nat) (digits : List UInt8) : Nat :=
  digits.foldl (fun n c => base * n + (digitValue c).getD 0) 0

/-- Whether there is a `-`, and what follows the sign. -/
def readSign : List UInt8 → Bool × List UInt8
  | 0x2d :: s => (true, s)
  | 0x2b :: s => (false, s)
  | s => (false, s)

def isX (c : UInt8) : Bool := c = 0x78 || c = 0x58

/-- Skip a `0x`. Without a digit behind it the value is zero, as it is with the `0` alone. -/
def dropHexPrefix (base : Nat) : List UInt8 → List UInt8
  | 0x30 :: x :: s => if base = 16 ∧ isX x then s else 0x30 :: x :: s
  | s => s

def longMax : Int := 2 ^ 31 - 1
def longMin : Int := -2 ^ 31

def strtol (base : Nat) (s : List UInt8) : Int32 :=
  let (negative, s) := readSign (s.dropWhile isSpace)
  let n : Int := ofDigits base ((dropHexPrefix base s).takeWhile (isDigitOf base))
  Int32.ofInt (max longMin (min longMax (if negative then -n else n)))

def atoi (s : List UInt8) : Int32 := strtol 10 s

/-- `std::stoi`, which throws without a digit and past the ends of an `int`. -/
def stoi (s : List UInt8) : Option Int32 :=
  let (negative, rest) := readSign (s.dropWhile isSpace)
  let digits := rest.takeWhile (isDigitOf 10)
  let n : Int := ofDigits 10 digits
  let n := if negative then -n else n
  if digits = [] ∨ n < longMin ∨ longMax < n then none else some (strtol 10 s)

/-! ## Numerals -/

structure IsNumeral (base : Nat) (digits : List UInt8) (n : Nat) : Prop where
  ne_nil : digits ≠ []
  isDigitOf : ∀ c ∈ digits, isDigitOf base c
  value : ofDigits base digits = n

/-- A numeral, which may start with `0x` when it is hexadecimal. -/
def Spells (base : Nat) (s : List UInt8) (n : Nat) : Prop :=
  IsNumeral base s n ∨
    (base = 16 ∧ ∃ x digits, isX x ∧ s = 0x30 :: x :: digits ∧ IsNumeral base digits n)

theorem le_of_isDigitOf {base : Nat} {c : UInt8} (h : isDigitOf base c) : 0x30 ≤ c := by
  by_contra hlow
  have hnone : digitValue c = none := by
    rw [UInt8.le_iff_toNat_le] at hlow
    simp only [digitValue, UInt8.le_iff_toNat_le]
    simp only [UInt8.reduceToNat] at hlow ⊢
    rw [if_neg (by omega), if_neg (by omega), if_neg (by omega)]
  rw [isDigitOf, hnone] at h
  cases h

theorem isSpace_of_le {c : UInt8} (h : 0x30 ≤ c) : isSpace c = false := by
  rw [UInt8.le_iff_toNat_le] at h
  simp only [isSpace, UInt8.le_iff_toNat_le, ← UInt8.toNat_inj]
  simp only [UInt8.reduceToNat] at h ⊢
  rw [Bool.or_eq_false_iff, Bool.and_eq_false_iff]
  simp only [decide_eq_false_iff_not]
  omega

theorem readSign_of_le {c : UInt8} (h : 0x30 ≤ c) (s : List UInt8) :
    readSign (c :: s) = (false, c :: s) := by
  unfold readSign
  split
  · next heq =>
    cases heq
    exact absurd h (by decide)
  · next heq =>
    cases heq
    exact absurd h (by decide)
  · rfl

theorem not_isX_of_isDigitOf {base : Nat} (hbase : base ≤ 16) {c : UInt8} (h : isDigitOf base c) :
    isX c = false := by
  by_contra hx
  rw [Bool.not_eq_false, isX, Bool.or_eq_true, decide_eq_true_iff, decide_eq_true_iff] at hx
  have hvalue : digitValue c = some 33 := by obtain rfl | rfl := hx <;> rfl
  rw [isDigitOf, hvalue, Option.any_some, decide_eq_true_iff] at h
  omega

/-- The digits themselves have no prefix. -/
theorem IsNumeral.dropHexPrefix {base n : Nat} {digits : List UInt8} (h : IsNumeral base digits n)
    (hbase : base ≤ 16) : dropHexPrefix base digits = digits := by
  unfold Huashan.dropHexPrefix
  split
  · next x s =>
    have hx := not_isX_of_isDigitOf hbase (h.isDigitOf x (by simp))
    rw [if_neg (by simp [hx])]
  · rfl

theorem IsNumeral.takeWhile {base n : Nat} {digits : List UInt8} (h : IsNumeral base digits n) :
    digits.takeWhile (Huashan.isDigitOf base) = digits :=
  List.takeWhile_eq_self_iff.mpr h.isDigitOf

/-- No space and no sign stands before a numeral. -/
theorem Spells.strtol_eq {base n : Nat} {s : List UInt8} (h : Spells base s n) :
    strtol base s = Int32.ofInt (max longMin (min longMax
      (ofDigits base ((Huashan.dropHexPrefix base s).takeWhile (isDigitOf base)) : Int))) := by
  obtain ⟨c, rest, rfl, hc⟩ : ∃ c rest, s = c :: rest ∧ 0x30 ≤ c := by
    obtain h | ⟨_, x, digits, _, rfl, _⟩ := h
    · obtain ⟨c, rest, rfl⟩ := List.exists_cons_of_ne_nil h.ne_nil
      exact ⟨c, rest, rfl, le_of_isDigitOf (h.isDigitOf c List.mem_cons_self)⟩
    · exact ⟨_, _, rfl, by decide⟩
  unfold strtol
  rw [List.dropWhile_cons_of_neg (by rw [isSpace_of_le hc]; decide), readSign_of_le hc]
  rfl

/-- A numeral is read as its value, or as the largest `long`. -/
theorem strtol_of_spells {base n : Nat} {s : List UInt8} (hbase : base ≤ 16)
    (h : Spells base s n) : strtol base s = Int32.ofInt (min longMax n) := by
  have hdigits : ofDigits base ((dropHexPrefix base s).takeWhile (isDigitOf base)) = n := by
    obtain h | ⟨rfl, x, digits, hx, rfl, h⟩ := h
    · rw [h.dropHexPrefix hbase, h.takeWhile, h.value]
    · rw [dropHexPrefix, if_pos ⟨rfl, hx⟩, h.takeWhile, h.value]
  rw [h.strtol_eq, hdigits]
  congr 1
  unfold longMin longMax
  omega

theorem toNat_toUInt32_ofInt {k : Nat} (h : k < 2 ^ 32) :
    (Int32.ofInt k).toUInt32.toNat = k := by
  show (BitVec.ofInt 32 k).toNat = k
  rw [BitVec.toNat_ofInt]
  omega

/-- The bits of the number that is read are those of the value exactly when it is a positive
`long`. -/
theorem toNat_strtol_iff {base n : Nat} {s : List UInt8} (hbase : base ≤ 16)
    (h : Spells base s n) : (strtol base s).toUInt32.toNat = n ↔ n < 2 ^ 31 := by
  have hmin : min longMax (n : Int) = ((min (2 ^ 31 - 1) n : Nat) : Int) := by
    unfold longMax
    omega
  rw [strtol_of_spells hbase h, hmin, toNat_toUInt32_ofInt (by omega)]
  omega

/-! ## Digits -/

theorem ofDigits_concat (base : Nat) (digits : List UInt8) (c : UInt8) :
    ofDigits base (digits ++ [c]) = base * ofDigits base digits + (digitValue c).getD 0 := by
  simp [ofDigits]

theorem digitValue_lt {base : Nat} {c : UInt8} (h : isDigitOf base c) :
    (digitValue c).getD 0 < base := by
  unfold isDigitOf at h
  cases hvalue : digitValue c with
  | none => simp [hvalue] at h
  | some d => simpa [hvalue] using h

theorem ofDigits_lt {base : Nat} {digits : List UInt8} (h : ∀ c ∈ digits, isDigitOf base c) :
    ofDigits base digits < base ^ digits.length := by
  induction digits using List.reverseRecOn with
  | nil => simp [ofDigits]
  | append_singleton digits c ih =>
    have hc := digitValue_lt (h c (by simp))
    have hlt := ih fun c hc => h c (by simp [hc])
    have hmul : base * (ofDigits base digits + 1) ≤ base * base ^ digits.length :=
      Nat.mul_le_mul_left base hlt
    rw [ofDigits_concat, List.length_append, List.length_singleton, pow_succ']
    rw [Nat.mul_add, Nat.mul_one] at hmul
    omega

/-- Up to base 10, the digits are `0` to `9`. -/
theorem digitValue_decimal {base : Nat} (hbase : base ≤ 10) {c : UInt8} (h : isDigitOf base c) :
    c.toNat = (digitValue c).getD 0 + 0x30 := by
  have hlow : 0x30 ≤ c.toNat := by simpa [UInt8.le_iff_toNat_le] using le_of_isDigitOf h
  unfold isDigitOf at h
  simp only [digitValue, UInt8.le_iff_toNat_le, UInt8.reduceToNat] at h ⊢
  split_ifs at h ⊢ <;> simp at h ⊢ <;> omega

/-- Digits are determined by their number and their value. -/
theorem eq_of_ofDigits_eq {base : Nat} (hbase : base ≤ 10) {a b : List UInt8}
    (ha : ∀ c ∈ a, isDigitOf base c) (hb : ∀ c ∈ b, isDigitOf base c)
    (hlength : a.length = b.length) (hvalue : ofDigits base a = ofDigits base b) : a = b := by
  induction a using List.reverseRecOn generalizing b with
  | nil => exact (List.length_eq_zero_iff.mp hlength.symm).symm
  | append_singleton a c ih =>
    obtain rfl | ⟨b, d, rfl⟩ := List.eq_nil_or_concat b
    · simp at hlength
    have hc := digitValue_lt (ha c (by simp))
    have hd := digitValue_lt (hb d (by simp))
    rw [List.concat_eq_append] at hlength hvalue hb ⊢
    rw [ofDigits_concat, ofDigits_concat] at hvalue
    have hdiv : ofDigits base a = ofDigits base b := by
      have h := congrArg (· / base) hvalue
      simpa [Nat.mul_add_div (show 0 < base by omega), Nat.div_eq_of_lt, hc, hd] using h
    have hmod : c = d := by
      rw [← UInt8.toNat_inj, digitValue_decimal hbase (ha c (by simp)),
        digitValue_decimal hbase (hb d (by simp))]
      rw [hdiv] at hvalue
      omega
    rw [hmod, ih (fun c hc => ha c (by simp [hc])) (fun c hc => hb c (by simp [hc]))
      (by simpa using hlength) hdiv]

/-! ## The digits of a number -/

def digitBytes (base n : Nat) : List UInt8 :=
  (Nat.toDigits base n).map fun c => UInt8.ofNat c.toNat

theorem digitValue_digitChar :
    ∀ d < 16, digitValue (UInt8.ofNat d.digitChar.toNat) = some d := by decide

theorem isNumeral_digitBytes {base : Nat} (h2 : 2 ≤ base) (h16 : base ≤ 16) (n : Nat) :
    IsNumeral base (digitBytes base n) n := by
  induction n using Nat.strongRecOn with
  | ind n ih =>
    by_cases hn : n < base
    · have hvalue := digitValue_digitChar n (by omega)
      rw [digitBytes, Nat.toDigits_of_lt_base hn]
      refine ⟨by simp, ?_, ?_⟩
      · simp [isDigitOf, hvalue, hn]
      · simp [ofDigits, hvalue]
    · have hlt : n % base < base := Nat.mod_lt n (by omega)
      have hvalue := digitValue_digitChar (n % base) (by omega)
      have hrest := ih (n / base) (Nat.div_lt_self (by omega) (by omega))
      have hconcat : digitBytes base n =
          digitBytes base (n / base) ++ [UInt8.ofNat (n % base).digitChar.toNat] := by
        rw [digitBytes, Nat.toDigits_of_base_le (by omega) (by omega), List.map_append]
        rfl
      rw [hconcat]
      refine ⟨by simp, ?_, ?_⟩
      · intro c hc
        rcases List.mem_append.mp hc with hc | hc
        · exact hrest.isDigitOf c hc
        · rw [List.mem_singleton.mp hc]
          simp [isDigitOf, hvalue, hlt]
      · rw [ofDigits_concat, hrest.value, hvalue]
        exact Nat.div_add_mod n base

theorem length_digitBytes_le {base n k : Nat} (hbase : 1 < base) (hk : 0 < k) (hn : n < base ^ k) :
    (digitBytes base n).length ≤ k := by
  rw [digitBytes, List.length_map]
  exact (Nat.length_toDigits_le_iff hbase hk).mpr hn

theorem ofDigits_zero_cons (base : Nat) (digits : List UInt8) :
    ofDigits base (0x30 :: digits) = ofDigits base digits := rfl

/-- Leading zeros do not count. -/
theorem IsNumeral.leftpad {base n : Nat} {digits : List UInt8} (h : IsNumeral base digits n)
    (hbase : 0 < base) (width : Nat) : IsNumeral base (digits.leftpad width 0x30) n := by
  have hzeros : ∀ k : Nat, ofDigits base (List.replicate k 0x30 ++ digits) = n := by
    intro k
    induction k with
    | zero => exact h.value
    | succ k ih => rw [List.replicate_succ, List.cons_append, ofDigits_zero_cons, ih]
  refine ⟨by simp [List.leftpad, h.ne_nil], ?_, hzeros _⟩
  intro c hc
  rcases List.mem_append.mp hc with hc | hc
  · rw [(List.mem_replicate.mp hc).2]
    simpa [Huashan.isDigitOf, digitValue] using hbase
  · exact h.isDigitOf c hc

end Huashan
