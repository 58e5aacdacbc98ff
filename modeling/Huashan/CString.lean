import Mathlib

/-!
# Huashan.CString

Strings in an array, ended by a terminator `nul`. An operation is `none` where it would read or
write past the end of the array.

`pad nul n s` is an array of `n` elements with the string `s` and only terminators behind it.
`store_pad` and `strcat_pad` say what a store behind the string and an append make of such an array,
and when they leave it.
-/

namespace Huashan
namespace CString

variable {α : Type*} [DecidableEq α] (nul : α)

/-- The string at the start of an array. -/
def content (array : List α) : Option (List α) :=
  if nul ∈ array then some (array.takeWhile (· ≠ nul)) else none

def strlen (array : List α) : Option Nat := (content nul array).map List.length

omit [DecidableEq α] in
/-- `array[pos] = c`. -/
def store (array : List α) (pos : Nat) (c : α) : Option (List α) :=
  if pos < array.length then some (array.set pos c) else none

def storeAll (array : List α) (pos : Nat) : List α → Option (List α)
  | [] => some array
  | c :: cs => (store array pos c).bind fun array => storeAll array (pos + 1) cs

def strcat (array s : List α) : Option (List α) :=
  (strlen nul array).bind fun pos => storeAll array pos (s ++ [nul])

def pad (n : Nat) (s : List α) : List α := s ++ List.replicate (n - s.length) nul

variable {nul} {n : Nat} {s t : List α}

omit [DecidableEq α] in
theorem length_pad (h : s.length ≤ n) : (pad nul n s).length = n := by
  simp [pad]
  omega

omit [DecidableEq α] in
/-- A terminator more behind the string changes nothing. -/
theorem pad_concat_nul (h : s.length < n) : pad nul n (s ++ [nul]) = pad nul n s := by
  have hlength : n - s.length = n - (s.length + 1) + 1 := by omega
  simp [pad, hlength, List.replicate_succ]

theorem content_pad (hs : nul ∉ s) (h : s.length < n) : content nul (pad nul n s) = some s := by
  have hlength : n - s.length = n - (s.length + 1) + 1 := by omega
  have htake : (pad nul n s).takeWhile (· ≠ nul) = s := by
    rw [pad, hlength, List.replicate_succ, List.takeWhile_append_of_pos]
    · simp
    · intro c hc
      have hne : c ≠ nul := by
        rintro rfl
        exact hs hc
      simpa using hne
  rw [content, htake, if_pos]
  simp [pad, hlength]

/-- A full array has no string. -/
theorem content_pad_of_le (hs : nul ∉ s) (h : n ≤ s.length) : content nul (pad nul n s) = none := by
  have hlength : n - s.length = 0 := by omega
  rw [content, if_neg]
  simpa [pad, hlength] using hs

omit [DecidableEq α] in
theorem store_pad (c : α) (h : s.length ≤ n) :
    store (pad nul n s) s.length c =
      if s.length < n then some (pad nul n (s ++ [c])) else none := by
  rw [store, length_pad h]
  by_cases hroom : s.length < n
  · have hlength : n - s.length = n - (s.length + 1) + 1 := by omega
    rw [if_pos hroom, if_pos hroom, pad, hlength, List.replicate_succ,
      List.set_append_right _ _ le_rfl]
    simp [pad]
  · rw [if_neg hroom, if_neg hroom]

omit [DecidableEq α] in
theorem storeAll_pad (h : s.length ≤ n) :
    storeAll (pad nul n s) s.length t =
      if s.length + t.length ≤ n then some (pad nul n (s ++ t)) else none := by
  induction t generalizing s with
  | nil => simp [storeAll, h]
  | cons c t ih =>
    rw [storeAll, store_pad c h]
    by_cases hroom : s.length < n
    · have hrest := ih (s := s ++ [c]) (by simp; omega)
      rw [List.length_append, List.length_singleton] at hrest
      rw [if_pos hroom, Option.bind_some, hrest, List.length_cons, List.append_assoc,
        List.singleton_append, Nat.add_assoc, Nat.add_comm 1]
    · rw [if_neg hroom, if_neg (by simp; omega), Option.bind_none]

theorem strcat_pad (hs : nul ∉ s) (h : s.length ≤ n) :
    strcat nul (pad nul n s) t =
      if s.length + t.length < n then some (pad nul n (s ++ t)) else none := by
  by_cases hroom : s.length < n
  · rw [strcat, strlen, content_pad hs hroom, Option.map_some, Option.bind_some, storeAll_pad h]
    by_cases hfits : s.length + t.length < n
    · rw [if_pos (by simp; omega), if_pos hfits, ← List.append_assoc,
        pad_concat_nul (by simp; omega)]
    · rw [if_neg (by simp; omega), if_neg hfits]
  · rw [strcat, strlen, content_pad_of_le hs (by omega), if_neg (by omega)]
    rfl

end CString
end Huashan
