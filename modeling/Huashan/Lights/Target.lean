import Huashan.Lights.Leds

/-!
# Huashan.Lights.Target

The program target as a set of bits: bit `ledsMap u c` stands for color `c` of unit `u`. The
caches keep the target of the last request and not its units, so what the code concludes from
equal targets rests on the two results here.

* `mem_of_ledsProgramTarget_eq`: for a lit color the target determines the units.
* `ledsProgramTarget_eq_zero`: the target is empty exactly for an unlit color.
-/

namespace Huashan
namespace Lights

theorem testBit_foldl_shift {α : Type*} (f : α → Nat) (j : Nat) (us : List α) :
    ∀ t : Nat, (us.foldl (fun t u => t ||| 1 <<< f u) t).testBit j =
      (t.testBit j || us.any fun u => decide (f u = j)) := by
  induction us with
  | nil => intro t; simp
  | cons u us ih =>
    intro t
    have hbit : (1 <<< f u).testBit j = decide (f u = j) := by
      rw [Nat.one_shiftLeft, Nat.testBit_two_pow]
    rw [List.foldl_cons, ih, Nat.testBit_or, hbit, List.any_cons, Bool.or_assoc]

theorem ledsMap_inj : ∀ {u u' c c' : Fin 3}, ledsMap u c = ledsMap u' c' → u = u' ∧ c = c' := by
  decide

theorem testBit_ledsProgramTarget (us : List (Fin 3)) (rgb : Fin 3 → UInt32) (j : Nat) :
    (ledsProgramTarget us rgb).testBit j =
      (List.finRange 3).any fun c =>
        decide (0 < rgb c) && us.any fun u => decide (ledsMap u c = j) := by
  have hcolor : ∀ (c : Fin 3) (t : Nat),
      (if rgb c > 0 then us.foldl (fun t u => t ||| 1 <<< ledsMap u c) t else t).testBit j =
        (t.testBit j || (decide (0 < rgb c) && us.any fun u => decide (ledsMap u c = j))) := by
    intro c t
    by_cases hc : rgb c > 0
    · rw [if_pos hc, testBit_foldl_shift (fun u => ledsMap u c)]
      simp [hc]
    · rw [if_neg hc]
      simp [show ¬ 0 < rgb c from hc]
  have hfold : ∀ (cs : List (Fin 3)) (t : Nat),
      (cs.foldl (fun t c => if rgb c > 0 then us.foldl (fun t u => t ||| 1 <<< ledsMap u c) t
        else t) t).testBit j = (t.testBit j ||
          cs.any fun c => decide (0 < rgb c) && us.any fun u => decide (ledsMap u c = j)) := by
    intro cs
    induction cs with
    | nil => intro t; simp
    | cons c cs ih => intro t; rw [List.foldl_cons, ih, hcolor, List.any_cons, Bool.or_assoc]
  rw [ledsProgramTarget, hfold]
  simp [ledsSeqBlinkNone]

/-- Bit `ledsMap u c` of the target is set when the target has unit `u` and color `c` is lit. -/
theorem testBit_ledsMap (us : List (Fin 3)) (rgb : Fin 3 → UInt32) (u c : Fin 3) :
    (ledsProgramTarget us rgb).testBit (ledsMap u c) = true ↔ u ∈ us ∧ 0 < rgb c := by
  rw [testBit_ledsProgramTarget]
  simp only [List.any_eq_true, Bool.and_eq_true, decide_eq_true_eq]
  constructor
  · rintro ⟨c', _, hc', u', hu', hmap⟩
    obtain ⟨rfl, rfl⟩ := ledsMap_inj hmap
    exact ⟨hu', hc'⟩
  · rintro ⟨hu, hc⟩
    exact ⟨c, List.mem_finRange c, hc, u, hu, rfl⟩

/-- For a lit color, equal targets have the same units. -/
theorem mem_of_ledsProgramTarget_eq {us us' : List (Fin 3)} {rgb : Fin 3 → UInt32}
    (hlit : ∃ c, 0 < rgb c) (h : ledsProgramTarget us rgb = ledsProgramTarget us' rgb)
    (u : Fin 3) : u ∈ us ↔ u ∈ us' := by
  obtain ⟨c, hc⟩ := hlit
  have hu := testBit_ledsMap us rgb u c
  rw [h, testBit_ledsMap] at hu
  exact ⟨fun hm => (hu.mpr ⟨hm, hc⟩).1, fun hm => (hu.mp ⟨hm, hc⟩).1⟩

theorem ledsProgramTarget_eq_zero {us : List (Fin 3)} (hus : us ≠ []) (rgb : Fin 3 → UInt32) :
    ledsProgramTarget us rgb = 0 ↔ ∀ c, rgb c = 0 := by
  obtain ⟨u, hu⟩ := List.exists_mem_of_ne_nil us hus
  constructor
  · intro h c
    have hbit := testBit_ledsMap us rgb u c
    rw [h, Nat.zero_testBit] at hbit
    by_contra hc
    exact Bool.false_ne_true (hbit.mpr ⟨hu, UInt32.pos_iff_ne_zero.mpr hc⟩)
  · intro h
    refine Nat.eq_of_testBit_eq fun j => ?_
    rw [testBit_ledsProgramTarget, Nat.zero_testBit]
    simp [h]

/-! ## Lit colors -/

theorem ledRgb_toNat (color : UInt32) (c : Fin 3) :
    (ledRgb color c).toNat = color.toNat / 2 ^ (8 * (2 - c.val)) % 256 := by
  have hmask : ∀ n : Nat, n &&& 255 = n % 256 := fun n => Nat.and_two_pow_sub_one_eq_mod n 8
  fin_cases c <;> simp [ledRgb, hmask, Nat.shiftRight_eq_div_pow]

/-- A state is lit when one of its three color bytes is. -/
theorem isLit_iff (state : LightState) :
    isLit state ↔ ∃ c, 0 < ledRgb state.color c := by
  have hmask : state.color.toNat &&& 0xffffff = state.color.toNat % 2 ^ 24 :=
    Nat.and_two_pow_sub_one_eq_mod state.color.toNat 24
  have hlit : isLit state ↔ state.color.toNat % 2 ^ 24 ≠ 0 := by
    rw [← hmask, isLit, bne_iff_ne, ne_eq, ← UInt32.toNat_inj]
    simp
  have hpos : ∀ c, 0 < ledRgb state.color c ↔
      state.color.toNat / 2 ^ (8 * (2 - c.val)) % 256 ≠ 0 := by
    intro c
    rw [← ledRgb_toNat, UInt32.lt_iff_toNat_lt]
    simp [Nat.pos_iff_ne_zero]
  simp only [hlit, hpos, Fin.exists_fin_succ]
  simp
  omega

theorem not_isLit_iff (state : LightState) :
    isLit state = false ↔ ∀ c, ledRgb state.color c = 0 := by
  rw [← Bool.not_eq_true, isLit_iff]
  simp [UInt32.pos_iff_ne_zero]

/-- An unlit state has an empty target, a lit one has not. -/
theorem Light.requestTarget_eq_zero (s : Light) (state : LightState) :
    s.requestTarget state = 0 ↔ isLit state = false := by
  rw [requestTarget, ledsProgramTarget_eq_zero s.ledUnits_ne_nil, not_isLit_iff]

end Lights
end Huashan
