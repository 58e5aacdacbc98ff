import Huashan.CString
import Huashan.Camera.RoundTrip

/-!
# Huashan.Camera.IsoModes

The loop of `camera_fixup_getparams` over the vendor's ISO modes, on the 255 bytes of its buffer. A
character of an item is stored at `bufferPos`, a comma is appended with the next `ISO`, and both
agree as long as `bufferPos` is the length of the text in the buffer. `isoModesBuffer_eq` says which
text that is and when it fits.
-/

namespace Huashan
namespace Camera

open CString

/-! ## The buffer -/

abbrev nul : Char := Char.ofNat 0

/-- One turn of the loop, with `buffer` and `bufferPos`. -/
def isoModesStep (s : List Char × Nat) (c : Char) : Option (List Char × Nat) := do
  if c ≠ ',' then return (← store s.1 s.2 c, s.2 + 1)
  else return (← strcat nul s.1 ",ISO".toList, s.2 + 4)

/-- The buffer in which the vendor's ISO list is translated, unless that writes past its end. -/
def isoModesBuffer (isoModeList : List Char) : Option (List Char) := do
  let s ← isoModeList.foldlM isoModesStep (pad nul 255 "ISO".toList, 3)
  strcat nul s.1 ",auto".toList

/-! ## The text -/

/-- The items of a list that is separated by commas, each behind `ISO`, and `auto` behind them. -/
def isoModes (isoModeList : List Char) : List Char :=
  [','].intercalate ((isoModeList.splitOn ',').map ("ISO".toList ++ ·)) ++ ",auto".toList

/-- What the loop writes for a list. -/
def isoItems (isoModeList : List Char) : List Char :=
  isoModeList.flatMap fun c => if c = ',' then ",ISO".toList else [c]

theorem isoItems_comma (s : List Char) : isoItems (',' :: s) = ",ISO".toList ++ isoItems s := by
  simp [isoItems]

theorem isoItems_char {c : Char} (h : c ≠ ',') (s : List Char) :
    isoItems (c :: s) = c :: isoItems s := by
  simp [isoItems, h]

theorem isoModes_eq (s : List Char) :
    isoModes s = "ISO".toList ++ isoItems s ++ ",auto".toList := by
  have hitems : [','].intercalate ((s.splitOn ',').map ("ISO".toList ++ ·)) =
      "ISO".toList ++ isoItems s := by
    induction s with
    | nil => simp [isoItems]
    | cons c s ih =>
      obtain ⟨item, items, hsplit⟩ := List.exists_cons_of_ne_nil (List.splitOn_ne_nil ',' s)
      rw [hsplit] at ih
      rw [List.splitOn_cons_eq_if_modifyHead, hsplit]
      by_cases hc : c = ','
      · subst hc
        simp_all [isoItems_comma, List.intercalate_cons_cons]
      · simp_all [isoItems_char, List.intercalate_cons_cons_left]
  rw [isoModes, hitems]

theorem length_isoModes (s : List Char) :
    (isoModes s).length = s.length + 3 * s.count ',' + 8 := by
  have hitems : (isoItems s).length = s.length + 3 * s.count ',' := by
    induction s with
    | nil => rfl
    | cons c s ih =>
      by_cases hc : c = ','
      · subst hc
        simp [isoItems_comma, ih]
        omega
      · simp [isoItems_char hc, hc, ih]
        omega
  simp [isoModes_eq, hitems]

theorem nul_not_mem_isoModes {s : List Char} (h : nul ∉ s) : nul ∉ isoModes s := by
  have hitems : nul ∉ isoItems s := by
    induction s with
    | nil => simp [isoItems]
    | cons c s ih =>
      obtain ⟨hne, hs⟩ : c ≠ nul ∧ nul ∉ s := by
        simpa [eq_comm] using h
      by_cases hc : c = ','
      · simp [hc, isoItems_comma, ih hs]
        decide
      · simp [isoItems_char hc, ih hs, hne.symm]
  simp [isoModes_eq, hitems]
  decide

/-! ## The loop -/

/-- The loop on a buffer without an end. -/
theorem isoModesLoop_fst (s : List Char) : (isoModesLoop s).1 = "ISO".toList ++ isoItems s := by
  have hloop : ∀ t : List Char, (s.foldl
      (fun (s : List Char × Nat) c =>
        if c ≠ ',' then (putChar s.1 s.2 c, s.2 + 1) else (s.1 ++ ",ISO".toList, s.2 + 4))
      (t, t.length)).1 = t ++ isoItems s := by
    induction s with
    | nil => simp [isoItems]
    | cons c s ih =>
      intro t
      by_cases hc : c = ','
      · subst hc
        have hrest := ih (t ++ ",ISO".toList)
        simp_all [isoItems_comma]
      · have hput : putChar t t.length c = t ++ [c] := by simp [putChar]
        have hrest := ih (t ++ [c])
        simp_all [isoItems_char]
  exact hloop "ISO".toList

theorem length_comma : ",ISO".toList.length = 4 := by decide

/-! One turn keeps `bufferPos` at the end of the text, unless the text gets too long. -/

theorem isoModesStep_comma {t : List Char} (ht : nul ∉ t) (hlength : t.length ≤ 255) :
    isoModesStep (pad nul 255 t, t.length) ',' =
      if t.length + 4 < 255
      then some (pad nul 255 (t ++ ",ISO".toList), (t ++ ",ISO".toList).length) else none := by
  rw [isoModesStep, if_neg (not_not.mpr rfl), strcat_pad ht hlength, List.length_append,
    length_comma]
  by_cases hroom : t.length + 4 < 255
  · rw [if_pos hroom, if_pos hroom]
    rfl
  · rw [if_neg hroom, if_neg hroom]
    rfl

theorem isoModesStep_char {t : List Char} {c : Char} (hc : c ≠ ',') (hlength : t.length ≤ 255) :
    isoModesStep (pad nul 255 t, t.length) c =
      if t.length < 255 then some (pad nul 255 (t ++ [c]), (t ++ [c]).length) else none := by
  rw [isoModesStep, if_pos hc, store_pad c hlength, List.length_append, List.length_singleton]
  by_cases hroom : t.length < 255
  · rw [if_pos hroom, if_pos hroom]
    rfl
  · rw [if_neg hroom, if_neg hroom]
    rfl

/-- The rest of the loop and the last append, from a buffer whose text ends at `bufferPos`. -/
theorem isoModes_rest {t s : List Char} (ht : nul ∉ t) (hs : nul ∉ s) (hlength : t.length ≤ 255) :
    ((s.foldlM isoModesStep (pad nul 255 t, t.length)).bind fun s =>
        strcat nul s.1 ",auto".toList) =
      if (t ++ isoItems s ++ ",auto".toList).length < 255
      then some (pad nul 255 (t ++ isoItems s ++ ",auto".toList)) else none := by
  induction s generalizing t with
  | nil =>
    rw [isoItems, List.flatMap_nil, List.append_nil, List.length_append]
    exact strcat_pad ht hlength
  | cons c s ih =>
    obtain ⟨hc, hs'⟩ : nul ≠ c ∧ nul ∉ s := by
      simpa using hs
    rw [List.foldlM_cons]
    by_cases hcomma : c = ','
    · subst hcomma
      rw [isoModesStep_comma ht hlength, isoItems_comma, ← List.append_assoc t]
      by_cases hroom : t.length + 4 < 255
      · have hiso : nul ∉ t ++ ",ISO".toList := by
          rw [List.mem_append, not_or]
          exact ⟨ht, by decide⟩
        rw [if_pos hroom]
        exact ih hiso hs' (by rw [List.length_append, length_comma]; omega)
      · rw [if_neg hroom, if_neg (by simp only [List.length_append, length_comma]; omega)]
        rfl
    · rw [isoModesStep_char hcomma hlength, isoItems_char hcomma,
        List.append_cons t c (isoItems s)]
      by_cases hroom : t.length < 255
      · have hitem : nul ∉ t ++ [c] := by
          simp [ht, hc]
        rw [if_pos hroom]
        exact ih hitem hs' (by rw [List.length_append, List.length_singleton]; omega)
      · rw [if_neg hroom, if_neg (by simp only [List.length_append, List.length_singleton]; omega)]
        rfl

/-- The buffer takes the text exactly when there is room for it and its terminator. -/
theorem isoModesBuffer_eq {s : List Char} (hs : nul ∉ s) :
    isoModesBuffer s =
      if (isoModes s).length < 255 then some (pad nul 255 (isoModes s)) else none := by
  rw [isoModes_eq]
  exact isoModes_rest (t := "ISO".toList) (by decide) hs (by decide)

/-! ## The list the application is shown -/

/-- A C string. -/
abbrev Text : Type := { s : String // nul ∉ s.toList }

theorem getIsoModes_list {p : CameraParameters} {isoModeList : String}
    (h : p.get keySonyIsoAvailModes = some isoModeList) :
    getIsoModes p = ⟨[.read (some isoModeList),
        .write (String.ofList (isoModes isoModeList.toList)) 255],
      some (p.set keySupportedIsoModes (String.ofList (isoModes isoModeList.toList)))⟩ := by
  have hbuffer : String.ofList (isoModesLoop isoModeList.toList).1 ++ ",auto" =
      String.ofList (isoModes isoModeList.toList) := by
    simp only [isoModesLoop_fst, isoModes_eq, String.ofList_append, String.ofList_toList]
  rw [← hbuffer]
  unfold getIsoModes
  rw [h]
  rfl

theorem getAeMode_keeps {p q : CameraParameters} (hq : (getAeMode p).value = some q) {k : String}
    (hk : k ≠ keyIsoMode) (hk' : k ≠ "shutter-speed") : q.get k = p.get k := by
  cases hiso : p.get keySonyIsoMode with
  | none =>
    have hvalue : (getAeMode p).value = some p := by simp [getAeMode, hiso]
    rw [Option.some.inj (hvalue.symm.trans hq)]
  | some iso =>
    cases hvalues : p.get keySonyAeModeValues with
    | none =>
      have hvalue : (getAeMode p).value = some p := by simp [getAeMode, hvalues]
      rw [Option.some.inj (hvalue.symm.trans hq)]
    | some values =>
      cases hmode : p.get keySonyAeMode with
      | none =>
        have hvalue : (getAeMode p).value = none := by
          simp [getAeMode, hiso, hvalues, hmode, strcmp]
        cases hvalue.symm.trans hq
      | some mode => exact getAeMode_other hiso (by simp [hvalues]) hmode hq hk hk'

/-- A list of the vendor is translated item by item, if the buffer has room for its translation. -/
theorem getparams_iso_modes (id : Int) {p : CameraParameters} (isoModeList : Text)
    (hlist : p.get keySonyIsoAvailModes = some isoModeList.val)
    (hfits : (isoModes isoModeList.val.toList).length + 1 ≤ 255) :
    (∃ buffer, isoModesBuffer isoModeList.val.toList = some buffer ∧
      content nul buffer = some (isoModes isoModeList.val.toList)) ∧
    ∀ q, (cameraFixupGetparams id p).value = some q →
      q.get keySupportedIsoModes = some (String.ofList (isoModes isoModeList.val.toList)) := by
  constructor
  · refine ⟨_, (isoModesBuffer_eq isoModeList.property).trans (if_pos hfits), ?_⟩
    exact content_pad (nul_not_mem_isoModes isoModeList.property) hfits
  · intro Q hQ
    let size := if id = 0 then "1280x720" else "640x480"
    obtain ⟨q₁, hq₁, hkeep₁⟩ := cameraFixupCapability_spec p
    have hlist₁ : (q₁.set keyPreferredPreviewSizeForVideo size).get keySonyIsoAvailModes =
        some isoModeList.val := by
      rw [q₁.get_set_of_ne size (by decide), hkeep₁ _ (by decide), hlist]
    obtain ⟨q₃, hq₃, _, hkeep₃⟩ := getSceneMode_spec
      ((q₁.set keyPreferredPreviewSizeForVideo size).set keySupportedIsoModes
        (String.ofList (isoModes isoModeList.val.toList)))
    have hvalue : (cameraFixupGetparams id p).value = (getAeMode (getVideoHdr q₃)).value := by
      simp only [cameraFixupGetparams, Fixup.value_bind, hq₁, Option.bind_some]
      rw [getIsoModes_list hlist₁, Option.bind_some, hq₃, Option.bind_some]
    rw [getAeMode_keeps (hvalue.symm.trans hQ) (by decide) (by decide),
      get_getVideoHdr (by decide) (by decide), hkeep₃ _ (by decide), CameraParameters.get_set_self]

/-- An empty item stays. -/
theorem getparams_iso_modes_empty_item :
    let p := (CameraParameters.mk fun _ => none).set keySonyIsoAvailModes "100,,200"
    ∃ q, (cameraFixupGetparams 0 p).value = some q ∧
      q.get keySupportedIsoModes = some "ISO100,ISO,ISO200,auto" := by
  intro p
  have hlist : p.get keySonyIsoAvailModes = some "100,,200" := CameraParameters.get_set_self _ _ _
  obtain ⟨q, hq⟩ : ∃ q, (cameraFixupGetparams 0 p).value = some q :=
    Option.isSome_iff_exists.mp (by decide)
  have hshown := (getparams_iso_modes 0 ⟨"100,,200", by decide⟩ hlist
    (by decide)).2 q hq
  refine ⟨q, hq, hshown.trans ?_⟩
  decide

end Camera
end Huashan
