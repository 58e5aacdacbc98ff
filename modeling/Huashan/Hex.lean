import Mathlib

/-!
# Huashan.Hex

Hexadecimal output of a fixed width. A number that fits the width can be read back from it
(`ofHex_formatHex`), so two such outputs are equal only for equal numbers. A text of words of four
digits is read back word by word (`readWords_formatWords`).
-/

namespace Huashan

/-- `%0<width>x` of `snprintf`. -/
def formatHex (width n : Nat) : String := String.ofList ((Nat.toDigits 16 n).leftpad width '0')

def hexValue (c : Char) : Nat :=
  if c.isDigit then c.toNat - '0'.toNat else c.toNat - 'a'.toNat + 10

def ofHex (cs : List Char) : Nat := cs.foldl (fun n c => 16 * n + hexValue c) 0

theorem ofHex_concat (cs : List Char) (c : Char) :
    ofHex (cs ++ [c]) = 16 * ofHex cs + hexValue c := by
  simp [ofHex]

theorem hexValue_digitChar : ∀ d < 16, hexValue d.digitChar = d := by decide

theorem ofHex_toDigits (n : Nat) : ofHex (Nat.toDigits 16 n) = n := by
  induction n using Nat.strongRecOn with
  | ind n ih =>
    by_cases hn : n < 16
    · rw [Nat.toDigits_of_lt_base hn]
      simpa [ofHex] using hexValue_digitChar n hn
    · rw [Nat.toDigits_of_base_le (by omega) (by omega), ofHex_concat, ih (n / 16) (by omega),
        hexValue_digitChar _ (Nat.mod_lt _ (by omega))]
      omega

theorem ofHex_leftpad (width : Nat) (cs : List Char) : ofHex (cs.leftpad width '0') = ofHex cs := by
  have hzeros : ∀ k : Nat, (List.replicate k '0').foldl (fun n c => 16 * n + hexValue c) 0 = 0 := by
    intro k
    induction k with
    | zero => rfl
    | succ k ih => exact ih
  rw [List.leftpad, ofHex, List.foldl_append, hzeros, ofHex]

theorem ofHex_formatHex (width n : Nat) : ofHex (formatHex width n).toList = n := by
  rw [formatHex, String.toList_ofList, ofHex_leftpad, ofHex_toDigits]

theorem formatHex_inj {width n m : Nat} (h : formatHex width n = formatHex width m) : n = m := by
  rw [← ofHex_formatHex width n, h, ofHex_formatHex]

theorem length_formatHex {width n : Nat} (hwidth : 0 < width) (hn : n < 16 ^ width) :
    (formatHex width n).toList.length = width := by
  have hlen := (Nat.length_toDigits_le_iff (b := 16) (by omega) hwidth).mpr hn
  rw [formatHex, String.toList_ofList, List.length_leftpad]
  omega

/-- Two digits of a byte. -/
theorem toList_formatHex_two {n : Nat} (hn : n < 256) :
    (formatHex 2 n).toList = [(n / 16).digitChar, (n % 16).digitChar] := by
  rw [formatHex, String.toList_ofList]
  by_cases hsmall : n < 16
  · rw [Nat.toDigits_of_lt_base hsmall, Nat.div_eq_of_lt hsmall, Nat.mod_eq_of_lt hsmall]
    rfl
  · rw [Nat.toDigits_of_base_le (by omega) (by omega), Nat.toDigits_of_lt_base (by omega)]
    rfl

/-- One more digit of width is one more digit at the end. -/
theorem toList_formatHex_succ {width : Nat} (hwidth : 0 < width) (n : Nat) :
    (formatHex (width + 1) n).toList =
      (formatHex width (n / 16)).toList ++ [(n % 16).digitChar] := by
  simp only [formatHex, String.toList_ofList, List.leftpad]
  by_cases hsmall : n < 16
  · obtain ⟨k, rfl⟩ : ∃ k, width = k + 1 := ⟨width - 1, by omega⟩
    rw [Nat.toDigits_of_lt_base hsmall, Nat.div_eq_of_lt hsmall, Nat.mod_eq_of_lt hsmall]
    simp [List.replicate_succ']
  · rw [Nat.toDigits_of_base_le (by omega) (by omega)]
    simp [Nat.add_sub_add_right]

/-- The digits of a number put together from two are those of the first and those of the second. -/
theorem toList_formatHex_append {width : Nat} (hwidth : 0 < width) (a : Nat) :
    ∀ (v : Nat) {b : Nat}, b < 16 ^ (v + 1) →
      (formatHex (width + (v + 1)) (a * 16 ^ (v + 1) + b)).toList =
        (formatHex width a).toList ++ (formatHex (v + 1) b).toList := by
  intro v
  induction v with
  | zero =>
    intro b hb
    have hb' : b < 16 := by simpa using hb
    have hone : (formatHex 1 b).toList = [b.digitChar] := by
      rw [formatHex, String.toList_ofList, Nat.toDigits_of_lt_base hb']
      rfl
    have hdiv : (a * 16 ^ 1 + b) / 16 = a := by omega
    have hmod : (a * 16 ^ 1 + b) % 16 = b := by omega
    rw [Nat.zero_add, toList_formatHex_succ hwidth, hdiv, hmod, hone]
  | succ v ih =>
    intro b hb
    have hpow : 16 ^ (v + 1 + 1) = 16 ^ (v + 1) * 16 := Nat.pow_succ ..
    have hdiv : (a * 16 ^ (v + 1 + 1) + b) / 16 = a * 16 ^ (v + 1) + b / 16 := by
      rw [hpow, ← Nat.mul_assoc]
      omega
    have hmod : (a * 16 ^ (v + 1 + 1) + b) % 16 = b % 16 := by
      rw [hpow, ← Nat.mul_assoc]
      omega
    have hb' : b / 16 < 16 ^ (v + 1) := by
      rw [hpow] at hb
      omega
    have hlast := toList_formatHex_succ (Nat.succ_pos v) b
    rw [← Nat.add_assoc, toList_formatHex_succ (by omega), hdiv, hmod, ih hb', hlast,
      List.append_assoc]

/-- A lower-case digit, as `%x` prints it. -/
def IsHexDigit (c : Char) : Prop := c ∈ "0123456789abcdef".toList

theorem isHexDigit_digitChar : ∀ d < 16, IsHexDigit d.digitChar := by
  unfold IsHexDigit
  decide

theorem isHexDigit_formatHex (width : Nat) : ∀ n : Nat, ∀ c ∈ (formatHex (width + 1) n).toList,
    n < 16 ^ (width + 1) → IsHexDigit c := by
  induction width with
  | zero =>
    intro n c hc hn
    have hn' : n < 16 := by simpa using hn
    rw [formatHex, String.toList_ofList, Nat.toDigits_of_lt_base hn'] at hc
    rw [List.mem_singleton.mp hc]
    exact isHexDigit_digitChar n hn'
  | succ width ih =>
    intro n c hc hn
    rw [toList_formatHex_succ (by omega)] at hc
    rcases List.mem_append.mp hc with hc | hc
    · exact ih (n / 16) c hc (by rw [Nat.pow_succ] at hn; omega)
    · rw [List.mem_singleton.mp hc]
      exact isHexDigit_digitChar _ (Nat.mod_lt _ (by omega))

/-! ## Words of four digits -/

def formatWords (ws : List Nat) : List Char := ws.flatMap fun w => (formatHex 4 w).toList

def readWords : List Char → List Nat
  | a :: b :: c :: d :: cs => ofHex [a, b, c, d] :: readWords cs
  | _ => []

theorem formatWords_append (vs ws : List Nat) :
    formatWords (vs ++ ws) = formatWords vs ++ formatWords ws := List.flatMap_append

section Words

variable {ws : List Nat}

theorem length_formatWords (h : ∀ w ∈ ws, w < 16 ^ 4) :
    (formatWords ws).length = 4 * ws.length := by
  induction ws with
  | nil => rfl
  | cons w ws ih =>
    have hw := length_formatHex (by omega) (h w List.mem_cons_self)
    have hws := ih fun v hv => h v (List.mem_cons_of_mem w hv)
    simp only [formatWords, List.flatMap_cons, List.length_append, List.length_cons] at hws ⊢
    omega

theorem isHexDigit_formatWords (h : ∀ w ∈ ws, w < 16 ^ 4) :
    ∀ c ∈ formatWords ws, IsHexDigit c := by
  intro c hc
  obtain ⟨w, hw, hcw⟩ := List.mem_flatMap.mp hc
  exact isHexDigit_formatHex 3 w c hcw (h w hw)

theorem readWords_formatWords (h : ∀ w ∈ ws, w < 16 ^ 4) : readWords (formatWords ws) = ws := by
  induction ws with
  | nil => rfl
  | cons w ws ih =>
    have hws := ih fun v hv => h v (List.mem_cons_of_mem w hv)
    have hlen := length_formatHex (by omega) (h w List.mem_cons_self)
    have hread := ofHex_formatHex 4 w
    obtain ⟨a, b, c, d, hfour⟩ := List.length_eq_four.mp hlen
    rw [hfour] at hread
    have hcons : formatWords (w :: ws) = a :: b :: c :: d :: formatWords ws := by
      simp only [formatWords, List.flatMap_cons, hfour, List.cons_append, List.nil_append]
    rw [hcons, readWords, hread, hws]

end Words

end Huashan
