import Huashan.Boot.Mkelf

/-!
# Huashan.Boot.Inputs

What the arguments of `mkelf.py` say, whatever the script does with them: the name of a file, and
its address and its marker, or that it is the command line.

`parseInput_iff`: the script accepts the arguments that say something, and takes them for what they
say.
-/

namespace Huashan
namespace Boot

structure Input where
  file : Bytes
  addr : Nat
  marker : Option Marker
  deriving DecidableEq

/-- A digit, by its place among the digits. -/
def HexDigit (c : UInt8) (d : Nat) : Prop :=
  (ascii "0123456789abcdef")[d]? = some c ∨ (ascii "0123456789ABCDEF")[d]? = some c

/-- A numeral, the last digit of which counts once. -/
inductive HexNumeral : Bytes → Nat → Prop where
  | digit {c : UInt8} {d : Nat} : HexDigit c d → HexNumeral [c] d
  | concat {digits : Bytes} {c : UInt8} {n d : Nat} :
      HexNumeral digits n → HexDigit c d → HexNumeral (digits ++ [c]) (16 * n + d)

/-- What stands behind an address. -/
inductive MarkerText : Option Marker → Bytes → Prop where
  | none : MarkerText none []
  | ramdisk : MarkerText (some .ramdisk) (ascii ",ramdisk")
  | ipl : MarkerText (some .ipl) (ascii ",ipl")
  | entry : MarkerText (some .entry) (ascii ",entry")
  | rpm : MarkerText (some .rpm) (ascii ",rpm")

/-- `file@cmdline`, or `file@0xADDR` with a marker and a newline that are optional. -/
inductive Says : Bytes → Input → Prop where
  | cmdline {file : Bytes} : 0x40 ∉ file →
      Says (file ++ ascii "@cmdline") ⟨file, 0, some .cmdline⟩
  | address {file digits text newline : Bytes} {addr : Nat} {marker : Option Marker} :
      0x40 ∉ file → HexNumeral digits addr → MarkerText marker text →
      newline = [] ∨ newline = [0x0a] →
      Says (file ++ ascii "@0x" ++ digits ++ text ++ newline) ⟨file, addr, marker⟩

/-- What the script takes an argument for. -/
def Seg.input (seg : Seg) : Input := ⟨seg.file, seg.addrValue, seg.flags⟩

/-! ## Digits -/

theorem hexDigit_iff {c : UInt8} {d : Nat} : HexDigit c d ↔ d < 16 ∧ digitValue c = some d := by
  constructor
  · intro h
    have hlt : d < 16 := by
      obtain h | h := h <;> exact (List.getElem?_eq_some_iff.mp h).1
    refine ⟨hlt, ?_⟩
    obtain h | h := h
    all_goals
      revert h
      interval_cases d
      all_goals
        intro h
        cases h
        rfl
  · rintro ⟨hlt, hvalue⟩
    have hcode : (c.toNat = 0x30 + d ∧ d < 10) ∨ (c.toNat = 0x57 + d ∧ 10 ≤ d) ∨
        (c.toNat = 0x37 + d ∧ 10 ≤ d) := by
      simp only [digitValue, UInt8.le_iff_toNat_le, UInt8.reduceToNat] at hvalue
      split_ifs at hvalue
      all_goals
        cases hvalue
        omega
    rw [← UInt8.ofNat_toNat (x := c)]
    obtain ⟨hcode, hlow⟩ | ⟨hcode, hhigh⟩ | ⟨hcode, hhigh⟩ := hcode
    · rw [hcode]
      interval_cases d <;> exact .inl rfl
    · rw [hcode]
      interval_cases d <;> exact .inl rfl
    · rw [hcode]
      interval_cases d <;> exact .inr rfl

theorem HexNumeral.isNumeral {digits : Bytes} {n : Nat} (h : HexNumeral digits n) :
    IsNumeral 16 digits n := by
  induction h with
  | digit hc =>
    obtain ⟨hlt, hvalue⟩ := hexDigit_iff.mp hc
    refine ⟨List.cons_ne_nil _ _, ?_, ?_⟩
    · simp [isDigitOf, hvalue, hlt]
    · simp [ofDigits, hvalue]
  | concat _ hc ih =>
    obtain ⟨hlt, hvalue⟩ := hexDigit_iff.mp hc
    refine ⟨by simp, ?_, ?_⟩
    · intro c hmem
      obtain hmem | hmem := List.mem_append.mp hmem
      · exact ih.isDigitOf c hmem
      · rw [List.mem_singleton.mp hmem]
        simp [isDigitOf, hvalue, hlt]
    · rw [ofDigits, List.foldl_append]
      show 16 * ofDigits 16 _ + _ = _
      rw [ih.value, hvalue, Option.getD_some]

theorem hexNumeral_of_isDigitOf {digits : Bytes} (hne : digits ≠ [])
    (hdigits : ∀ c ∈ digits, isDigitOf 16 c) : HexNumeral digits (ofDigits 16 digits) := by
  induction digits using List.reverseRecOn with
  | nil => exact absurd rfl hne
  | append_singleton digits c ih =>
    obtain ⟨d, hvalue, hlt⟩ := (Option.any_eq_true _ _).mp (hdigits c (by simp))
    have hc : HexDigit c d := hexDigit_iff.mpr ⟨of_decide_eq_true hlt, hvalue⟩
    have hconcat : ofDigits 16 (digits ++ [c]) = 16 * ofDigits 16 digits + d := by
      rw [ofDigits, List.foldl_append]
      show 16 * ofDigits 16 digits + (digitValue c).getD 0 = _
      rw [hvalue, Option.getD_some]
    rw [hconcat]
    cases digits with
    | nil => simpa [ofDigits] using HexNumeral.digit hc
    | cons first rest =>
      exact (ih (List.cons_ne_nil _ _) fun b hb => hdigits b (List.mem_append_left _ hb)).concat hc

/-! ## Arguments -/

/-- What is split into two has the separator once. -/
theorem splitOn_eq_pair_iff {arg file token : Bytes} {c : UInt8} :
    arg.splitOn c = [file, token] ↔ arg = file ++ c :: token ∧ c ∉ file ∧ c ∉ token := by
  constructor
  · intro h
    by_cases hmem : c ∈ arg
    · obtain ⟨first, rest, rfl, hfirst⟩ := List.eq_append_cons_of_mem hmem
      rw [List.splitOn_append_cons_self_of_not_mem hfirst, List.cons.injEq] at h
      obtain ⟨rfl, hrest⟩ := h
      by_cases hagain : c ∈ rest
      · obtain ⟨second, more, rfl, hsecond⟩ := List.eq_append_cons_of_mem hagain
        rw [List.splitOn_append_cons_self_of_not_mem hsecond, List.cons.injEq] at hrest
        exact absurd hrest.2 (List.splitOn_ne_nil c more)
      · rw [List.splitOn_eq_singleton hagain, List.cons.injEq] at hrest
        obtain ⟨rfl, _⟩ := hrest
        exact ⟨rfl, hfirst, hagain⟩
    · rw [List.splitOn_eq_singleton hmem] at h
      cases h
  · rintro ⟨rfl, hfile, htoken⟩
    rw [List.splitOn_append_cons_self_of_not_mem hfile, List.splitOn_eq_singleton htoken]

theorem matchMarker_iff {rest : Bytes} {marker : Option Marker} :
    matchMarker rest = some marker ↔ ∃ text newline, MarkerText marker text ∧
      (newline = [] ∨ newline = [0x0a]) ∧ rest = text ++ newline := by
  constructor
  · intro h
    obtain ⟨newline, hnewline, hrest⟩ : ∃ newline, (newline = [] ∨ newline = [0x0a]) ∧
        rest = dropNewline rest ++ newline := by
      unfold dropNewline
      split
      · next hlast => exact ⟨[0x0a], .inr rfl, (List.dropLast_append_getLast? _ hlast).symm⟩
      · exact ⟨[], .inl rfl, (List.append_nil _).symm⟩
    refine ⟨dropNewline rest, newline, ?_, hnewline, hrest⟩
    unfold matchMarker at h
    dsimp only at h
    generalize dropNewline rest = text at h
    split_ifs at h with hnone hramdisk hipl hentry hrpm
    all_goals
      cases h
      subst text
      constructor
  · rintro ⟨text, newline, htext, hnewline, rfl⟩
    obtain rfl | rfl := hnewline <;> cases htext <;> rfl

/-- The digits end at a marker or a newline. -/
theorem span_markerText {marker : Option Marker} {text newline : Bytes}
    (htext : MarkerText marker text) (hnewline : newline = [] ∨ newline = [0x0a]) :
    (text ++ newline).takeWhile (isDigitOf 16) = [] ∧
      (text ++ newline).dropWhile (isDigitOf 16) = text ++ newline := by
  obtain rfl | rfl := hnewline <;> cases htext <;> exact ⟨rfl, rfl⟩

theorem not_mem_markerText {marker : Option Marker} {text newline : Bytes}
    (htext : MarkerText marker text) (hnewline : newline = [] ∨ newline = [0x0a]) :
    0x40 ∉ text ++ newline := by
  obtain rfl | rfl := hnewline <;> cases htext <;> decide

theorem matchInput_iff {token addr : Bytes} {marker : Option Marker} :
    matchInput token = some (addr, marker) ↔ ∃ digits text newline, digits ≠ [] ∧
      (∀ c ∈ digits, isDigitOf 16 c) ∧ MarkerText marker text ∧
      (newline = [] ∨ newline = [0x0a]) ∧ addr = 0x30 :: 0x78 :: digits ∧
      token = 0x30 :: 0x78 :: (digits ++ (text ++ newline)) := by
  constructor
  · intro h
    unfold matchInput at h
    split at h
    · next rest =>
      dsimp only at h
      split_ifs at h with hne
      obtain ⟨flags, hflags, heq⟩ := Option.map_eq_some_iff.mp h
      cases heq
      obtain ⟨text, newline, htext, hnewline, hrest⟩ := matchMarker_iff.mp hflags
      refine ⟨_, text, newline, hne, fun c hc => List.mem_takeWhile_imp hc, htext, hnewline, rfl, ?_⟩
      rw [← hrest, List.takeWhile_append_dropWhile]
    · cases h
  · rintro ⟨digits, text, newline, hne, hdigits, htext, hnewline, rfl, rfl⟩
    obtain ⟨hend, hrest⟩ := span_markerText htext hnewline
    have htake : (digits ++ (text ++ newline)).takeWhile (isDigitOf 16) = digits := by
      rw [List.takeWhile_append_of_pos hdigits, hend, List.append_nil]
    have hdrop : (digits ++ (text ++ newline)).dropWhile (isDigitOf 16) = text ++ newline := by
      rw [List.dropWhile_append_of_pos hdigits, hrest]
    have hmarker : matchMarker (text ++ newline) = some marker :=
      matchMarker_iff.mpr ⟨text, newline, htext, hnewline, rfl⟩
    show (if _ = [] then none else _) = _
    rw [htake, hdrop, if_neg hne, hmarker]
    rfl

/-- An argument is accepted exactly when it says something, and taken for what it says. -/
theorem parseInput_iff {arg : Bytes} {input : Input} :
    (parseInput arg).map Seg.input = some input ↔ Says arg input := by
  constructor
  · intro h
    obtain ⟨seg, hseg, rfl⟩ := Option.map_eq_some_iff.mp h
    unfold parseInput at hseg
    split at hseg
    · next file token hsplit =>
      obtain ⟨rfl, hfile, _⟩ := splitOn_eq_pair_iff.mp hsplit
      split_ifs at hseg with hcmdline
      · cases hseg
        subst hcmdline
        exact .cmdline hfile
      · obtain ⟨⟨addr, flags⟩, hmatch, rfl⟩ := Option.map_eq_some_iff.mp hseg
        obtain ⟨digits, text, newline, hne, hdigits, htext, hnewline, rfl, rfl⟩ :=
          matchInput_iff.mp hmatch
        have hmeans := Says.address hfile (hexNumeral_of_isDigitOf hne hdigits) htext hnewline
        show Says _ ⟨file, ofDigits 16 digits, flags⟩
        simpa [ascii, List.append_assoc] using hmeans
    · cases hseg
  · intro h
    cases h with
    | @cmdline file hfile =>
      have hsplit : (file ++ ascii "@cmdline").splitOn 0x40 = [file, ascii "cmdline"] :=
        splitOn_eq_pair_iff.mpr ⟨rfl, hfile, by decide⟩
      rw [parseInput, hsplit]
      rfl
    | @address file digits text newline addr marker hfile hdigits htext hnewline =>
      have hnumeral := hdigits.isNumeral
      have hmatch : matchInput (0x30 :: 0x78 :: (digits ++ (text ++ newline))) =
          some (0x30 :: 0x78 :: digits, marker) :=
        matchInput_iff.mpr ⟨digits, text, newline, hnumeral.ne_nil, hnumeral.isDigitOf, htext,
          hnewline, rfl, rfl⟩
      have hsplit : (file ++ ascii "@0x" ++ digits ++ text ++ newline).splitOn 0x40 =
          [file, 0x30 :: 0x78 :: (digits ++ (text ++ newline))] := by
        refine splitOn_eq_pair_iff.mpr ⟨by simp [ascii], hfile, ?_⟩
        have hdigit : 0x40 ∉ digits := fun hmem => by cases hnumeral.isDigitOf _ hmem
        simp [hdigit, not_mem_markerText htext hnewline]
      have hcmdline : ¬ 0x30 :: 0x78 :: (digits ++ (text ++ newline)) = ascii "cmdline" := by
        intro h
        cases h
      have hvalue : Seg.input ⟨file, 0x30 :: 0x78 :: digits, marker⟩ = ⟨file, addr, marker⟩ := by
        rw [← hnumeral.value]
        rfl
      rw [parseInput, hsplit]
      show Option.map Seg.input (if _ = _ then _ else _) = _
      rw [if_neg hcmdline, hmatch, Option.map_some, Option.map_some, hvalue]

/-- The script accepts the arguments that all say something. -/
theorem parseInputs_iff {args : List Bytes} {inputs : List Input} :
    (parseInputs args).map (List.map Seg.input) = some inputs ↔ List.Forall₂ Says args inputs := by
  induction args generalizing inputs with
  | nil =>
    rw [List.forall₂_nil_left_iff]
    exact ⟨fun h => (Option.some.inj h).symm, fun h => by rw [h]; rfl⟩
  | cons arg args ih =>
    have hcons : (parseInputs (arg :: args)).map (List.map Seg.input) =
        ((parseInput arg).map Seg.input).bind fun input =>
          ((parseInputs args).map (List.map Seg.input)).map (input :: ·) := by
      rw [parseInputs, List.mapM_cons]
      cases parseInput arg with
      | none => rfl
      | some seg =>
        show Option.map _ (Option.bind (parseInputs args) _) = _
        cases parseInputs args <;> rfl
    rw [hcons, Option.bind_eq_some_iff, List.forall₂_cons_left_iff]
    constructor
    · rintro ⟨input, hinput, hrest⟩
      obtain ⟨rest, hparse, rfl⟩ := Option.map_eq_some_iff.mp hrest
      exact ⟨input, rest, parseInput_iff.mp hinput, ih.mp hparse, rfl⟩
    · rintro ⟨input, rest, hinput, hrest, rfl⟩
      exact ⟨input, parseInput_iff.mpr hinput, by rw [ih.mpr hrest]; rfl⟩

end Boot
end Huashan
