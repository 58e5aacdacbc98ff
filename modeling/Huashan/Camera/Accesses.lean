import Huashan.Camera.IsoModes

/-!
# Huashan.Camera.Accesses

What the fix-ups do with pointers and buffers.

`fixups_valid_iff`: they use a `NULL`, or step past the end of an ISO mode, unless the maps have the
keys that are taken for granted. `getparams_fits_iff`: they write past the end of a buffer with long
lists, and with every ISO value.
-/

namespace Huashan
namespace Camera

/-! ## Accesses of a computation -/

namespace Fixup

variable {α β : Type} {ok : Access → Prop}

/-- All accesses are of a kind. -/
def Meets (ok : Access → Prop) (x : Fixup α) : Prop := ∀ a ∈ x.accesses, ok a

@[simp] theorem meets_pure (a : α) : (pure a : Fixup α).Meets ok := by
  intro a ha
  cases ha

@[simp] theorem meets_bind (x : Fixup α) (f : α → Fixup β) :
    (x >>= f).Meets ok ↔ x.Meets ok ∧ ∀ a, x.value = some a → (f a).Meets ok := by
  cases h : x.value with
  | none => simp [Meets, bind, h]
  | some a => simp [Meets, bind, h, or_imp, forall_and]

@[simp] theorem meets_ite {c : Prop} [Decidable c] (x y : Fixup α) :
    (if c then x else y).Meets ok ↔ (c → x.Meets ok) ∧ (¬c → y.Meets ok) := by
  by_cases h : c <;> simp [h]

/-- A computation with a known value. -/
theorem meets_bind_of_value {x : Fixup α} {a : α} (h : x.value = some a) (f : α → Fixup β) :
    (x >>= f).Meets ok ↔ x.Meets ok ∧ (f a).Meets ok := by
  simp [h]

end Fixup

open Fixup

variable {ok : Access → Prop}

@[simp] theorem meets_strcmp (s : Option String) (t : String) :
    (strcmp s t).Meets ok ↔ ok (.read s) := by
  simp [Meets, strcmp]

@[simp] theorem meets_strstr (s : Option String) (t : String) :
    (strstr s t).Meets ok ↔ ok (.read s) := by
  simp [Meets, strstr]

@[simp] theorem meets_strlen (s : Option String) : (strlen s).Meets ok ↔ ok (.read s) := by
  simp [Meets, strlen]

@[simp] theorem meets_sprintf (size : Nat) (before : String) (s : Option String)
    (after : String) : (sprintf size before s after).Meets ok ↔
      ok (.read s) ∧ ok (.write (before ++ s.getD "(null)" ++ after) size) := by
  simp [Meets, sprintf]

@[simp] theorem meets_skip (s : String) (n : Nat) : (skip s n).Meets ok ↔ ok (.skip s n) := by
  simp [Meets, skip]

@[simp] theorem meets_mk {α : Type} (accesses : List Access) (value : Option α) :
    (⟨accesses, value⟩ : Fixup α).Meets ok ↔ ∀ a ∈ accesses, ok a := Iff.rfl

theorem contains_some {s v : String} : Contains (some s) v ↔ v.toList <:+: s.toList := by
  simp [Contains]

theorem value_strstr_of_not_contains {values v : String} (h : ¬Contains (some values) v) :
    (strstr (some values) v).value = some false := by
  rw [contains_some] at h
  rw [value_strstr, decide_eq_false h]

theorem not_contains_none (v : String) : ¬Contains none v := by
  simp [Contains]

/-! ## Pointers -/

/-- No `NULL` is read, and no pointer is moved past the end of its string. -/
def Access.Valid : Access → Prop
  | .read value => value.isSome
  | .skip value n => n ≤ value.length
  | .write _ _ => True

/-- The keys that `camera_fixup_getparams` takes for granted. -/
structure GetComplete (p : CameraParameters) : Prop where
  sceneModes : Contains (p.get keySonyImageStabiliserValues) valueSonyStillHdr →
    (p.get keySupportedSceneModes).isSome
  aeMode : (p.get keySonyIsoMode).isSome → (p.get keySonyAeModeValues).isSome →
    (p.get keySonyAeMode).isSome

/-- The keys that `camera_fixup_setparams` takes for granted, and the prefix of the ISO mode. The
mode of the vendor need not be there when the shutter speed has just set it. -/
structure SetComplete (p : CameraParameters) : Prop where
  aeModes : p.get "shutter-speed" = some "auto" → (p.get keySonyAeModeValues).isSome
  isoMode : ∀ v, p.get keyIsoMode = some v → v ≠ "auto" → 3 ≤ v.length
  aeMode : ∀ v, p.get keyIsoMode = some v →
    Contains (p.get keySonyAeModeValues) (if v = "auto" then "auto" else "iso-prio") →
    (p.get keySonyAeMode).isSome ∨ ∃ s, p.get "shutter-speed" = some s ∧
      (s = "auto" → Contains (p.get keySonyAeModeValues) "auto")

section
variable {p : CameraParameters}

theorem capability_valid_iff : (cameraFixupCapability p).Meets Access.Valid ↔
    (Contains (p.get keySonyImageStabiliserValues) valueSonyStillHdr →
      (p.get keySupportedSceneModes).isSome) := by
  unfold cameraFixupCapability
  cases p.get keySonyImageStabiliserValues with
  | none => simp [not_contains_none]
  | some modes => simp [contains_some, Access.Valid]

theorem getIsoModes_valid : (getIsoModes p).Meets Access.Valid := by
  unfold getIsoModes
  cases p.get keySonyIsoAvailModes <;> simp [Access.Valid]

theorem getSceneMode_valid : (getSceneMode p).Meets Access.Valid := by
  unfold getSceneMode
  cases p.get keySonyImageStabiliser <;> simp [Access.Valid]

theorem getIsoVal_valid {iso : String} (h : p.get keySonyIsoMode = some iso) :
    (getIsoVal p).Meets Access.Valid := by
  simp [getIsoVal, h, Access.Valid]

theorem getAeMode_valid_iff : (getAeMode p).Meets Access.Valid ↔
    ((p.get keySonyIsoMode).isSome → (p.get keySonyAeModeValues).isSome →
      (p.get keySonyAeMode).isSome) := by
  unfold getAeMode
  cases hiso : p.get keySonyIsoMode with
  | none => simp
  | some iso =>
    have hspeed : (getShutterSpeed p).get keySonyIsoMode = some iso :=
      (get_getShutterSpeed (by decide)).trans hiso
    cases hmode : p.get keySonyAeMode with
    | none => simp [Access.Valid, strcmp]
    | some mode => simp [Access.Valid, getIsoVal_valid hiso, getIsoVal_valid hspeed]

/-- The accesses are those of the parts, each on parameters that have the vendor's keys. -/
theorem getparams_meets (id : Int) (p : CameraParameters) : ∃ q r s : CameraParameters,
    (∀ k, k ∉ [keySupportedSceneModes, keyPreferredPreviewSizeForVideo] → q.get k = p.get k) ∧
    (∀ k, k ∉ [keySupportedSceneModes, keyPreferredPreviewSizeForVideo, keySupportedIsoModes,
      keySceneMode, "video-hdr-values", "video-hdr"] → s.get k = p.get k) ∧
    ∀ ok, (cameraFixupGetparams id p).Meets ok ↔ (cameraFixupCapability p).Meets ok ∧
      (getIsoModes q).Meets ok ∧ (getSceneMode r).Meets ok ∧ (getAeMode s).Meets ok := by
  obtain ⟨q₁, hq₁, hkeep₁⟩ := cameraFixupCapability_spec p
  let size := if id = 0 then "1280x720" else "640x480"
  obtain ⟨q₂, hq₂, hkeep₂⟩ := getIsoModes_spec (q₁.set keyPreferredPreviewSizeForVideo size)
  obtain ⟨q₃, hq₃, _, hkeep₃⟩ := getSceneMode_spec q₂
  refine ⟨q₁.set keyPreferredPreviewSizeForVideo size, q₂, getVideoHdr q₃, ?_, ?_, fun ok => ?_⟩
  · intro k hk
    simp only [List.mem_cons, not_or] at hk
    rw [q₁.get_set_of_ne _ hk.2.1, hkeep₁ k hk.1]
  · intro k hk
    simp only [List.mem_cons, not_or] at hk
    obtain ⟨h₁, h₂, h₃, h₄, h₅, h₆, _⟩ := hk
    rw [get_getVideoHdr h₅ h₆, hkeep₃ k h₄, hkeep₂ k h₃, q₁.get_set_of_ne _ h₂, hkeep₁ k h₁]
  · rw [cameraFixupGetparams, meets_bind_of_value hq₁, meets_bind_of_value hq₂,
      meets_bind_of_value hq₃]

theorem getparams_valid_iff (id : Int) :
    (cameraFixupGetparams id p).Meets Access.Valid ↔ GetComplete p := by
  obtain ⟨q, r, s, _, hkeep, hmeets⟩ := getparams_meets id p
  rw [hmeets, capability_valid_iff, getAeMode_valid_iff, hkeep _ (by decide),
    hkeep _ (by decide), hkeep _ (by decide)]
  constructor
  · rintro ⟨hscene, _, _, hmode⟩
    exact ⟨hscene, hmode⟩
  · rintro ⟨hscene, hmode⟩
    exact ⟨hscene, getIsoModes_valid, getSceneMode_valid, hmode⟩

theorem setShutterSpeed_valid_iff : (setShutterSpeed p).Meets Access.Valid ↔
    (p.get "shutter-speed" = some "auto" → (p.get keySonyAeModeValues).isSome) := by
  unfold setShutterSpeed
  cases p.get "shutter-speed" with
  | none => simp
  | some speed => cases p.get keySonyAeModeValues <;> simp [Access.Valid]

/-- What the first part of `camera_fixup_setparams` leaves to the second one. -/
theorem setShutterSpeed_keeps
    (h : p.get "shutter-speed" = some "auto" → (p.get keySonyAeModeValues).isSome) :
    ∃ q, (setShutterSpeed p).value = some q ∧
      ((q.get keySonyAeMode).isSome ↔ (p.get keySonyAeMode).isSome ∨
        ∃ s, p.get "shutter-speed" = some s ∧
          (s = "auto" → Contains (p.get keySonyAeModeValues) "auto")) ∧
      ∀ k, k ≠ keySonyAeMode → k ≠ "sony-shutter-speed" → q.get k = p.get k := by
  cases hspeed : p.get "shutter-speed" with
  | none => exact ⟨p, setShutterSpeed_none hspeed, by simp, fun _ _ _ => rfl⟩
  | some speed =>
    by_cases hauto : speed = "auto"
    · subst hauto
      by_cases hmodes : Contains (p.get keySonyAeModeValues) "auto"
      · refine ⟨_, setShutterSpeed_auto hspeed hmodes, ?_, fun k hk _ => p.get_set_of_ne _ hk⟩
        simp [hmodes]
      · obtain ⟨values, hvalues⟩ := Option.isSome_iff_exists.mp (h hspeed)
        refine ⟨p, ?_, by simp [hmodes], fun _ _ _ => rfl⟩
        rw [hvalues] at hmodes
        simp [setShutterSpeed, hspeed, hvalues, value_strstr_of_not_contains hmodes]
    · refine ⟨_, setShutterSpeed_speed hspeed hauto, by simp [hauto], fun k hk hk' => ?_⟩
      exact ((p.set _ _).get_set_of_ne _ hk).trans (p.get_set_of_ne _ hk')

theorem setAeMode_valid_iff {v : String} : (setAeMode p v).Meets Access.Valid ↔
    (Contains (p.get keySonyAeModeValues) (if v = "auto" then "auto" else "iso-prio") →
      (p.get keySonyAeMode).isSome) := by
  have hmode : ∀ f : Bool → Fixup CameraParameters, (∀ b, (f b).Meets Access.Valid) →
      ((strcmp (p.get keySonyAeMode) "shutter-prio" >>= f).Meets Access.Valid ↔
        (p.get keySonyAeMode).isSome) := by
    intro f hf
    simp [hf, Access.Valid]
  unfold setAeMode
  cases p.get keySonyAeModeValues with
  | none => simp [not_contains_none]
  | some values =>
    by_cases hauto : v = "auto"
    · by_cases hlists : Contains (some values) "auto"
      · simp [-value_strstr, hauto, hlists, hlists.value_strstr, hmode, Access.Valid]
      · simp [-value_strstr, hauto, hlists, value_strstr_of_not_contains hlists, Access.Valid]
    · by_cases hlists : Contains (some values) "iso-prio"
      · simp [-value_strstr, hauto, hlists, hlists.value_strstr, hmode, Access.Valid]
      · simp [-value_strstr, hauto, hlists, value_strstr_of_not_contains hlists, Access.Valid]

theorem setIsoMode_valid_iff : (setIsoMode p).Meets Access.Valid ↔
    ∀ v, p.get keyIsoMode = some v → (v ≠ "auto" → 3 ≤ v.length) ∧
      (Contains (p.get keySonyAeModeValues) (if v = "auto" then "auto" else "iso-prio") →
        (p.get keySonyAeMode).isSome) := by
  unfold setIsoMode
  cases p.get keyIsoMode with
  | none => simp
  | some v =>
    have hkeep : ∀ (w k : String), k ≠ keySonyIsoMode → (p.set keySonyIsoMode w).get k = p.get k :=
      fun w k hk => p.get_set_of_ne w hk
    by_cases hauto : v = "auto"
    · subst hauto
      simp [setSonyIso, setAeMode_valid_iff, Access.Valid]
    · by_cases hshort : 3 ≤ v.length
      · simp [setSonyIso, setAeMode_valid_iff, Access.Valid, hauto, hshort, skip,
          hkeep _ keySonyAeModeValues (by decide), hkeep _ keySonyAeMode (by decide)]
      · simp [setSonyIso, Access.Valid, hauto, hshort]

theorem setSceneMode_valid : (setSceneMode p).Meets Access.Valid := by
  unfold setSceneMode
  cases p.get keySceneMode <;> simp [Access.Valid]

theorem setStabilisers_valid : (setStabilisers p).Meets Access.Valid := by
  unfold setStabilisers
  cases p.get keyRecordingHint with
  | none => simp
  | some hint => cases p.get keySonyVideoStabiliserValues <;> simp [Access.Valid]

theorem setparams_valid_iff (id : Int) :
    (cameraFixupSetparams id p).Meets Access.Valid ↔ SetComplete p := by
  have hrest : ∀ q, (setIsoMode q >>= fun q => setSceneMode q >>= fun q =>
      setStabilisers (setVideoHdr q)).Meets Access.Valid ↔ (setIsoMode q).Meets Access.Valid := by
    intro q
    simp [setSceneMode_valid, setStabilisers_valid]
  unfold cameraFixupSetparams
  constructor
  · intro h
    have hmodes := setShutterSpeed_valid_iff.mp ((meets_bind _ _).mp h).1
    obtain ⟨q, hq, hmode, hkeep⟩ := setShutterSpeed_keeps hmodes
    rw [meets_bind_of_value hq, hrest, setIsoMode_valid_iff, hkeep _ (by decide) (by decide),
      hkeep _ (by decide) (by decide), hmode] at h
    exact ⟨hmodes, fun v hv => (h.2 v hv).1, fun v hv => (h.2 v hv).2⟩
  · intro h
    obtain ⟨q, hq, hmode, hkeep⟩ := setShutterSpeed_keeps h.aeModes
    rw [meets_bind_of_value hq, hrest, setIsoMode_valid_iff, hkeep _ (by decide) (by decide),
      hkeep _ (by decide) (by decide), hmode]
    exact ⟨setShutterSpeed_valid_iff.mpr h.aeModes, fun v hv => ⟨h.isoMode v hv, h.aeMode v hv⟩⟩

/-- Both fix-ups use valid pointers only exactly when the maps have the keys that are taken for
granted, and an ISO mode that is not `auto` has three characters. -/
theorem fixups_valid_iff (id : Int) (p : CameraParameters) :
    ((cameraFixupGetparams id p).Meets Access.Valid ↔ GetComplete p) ∧
      ((cameraFixupSetparams id p).Meets Access.Valid ↔ SetComplete p) :=
  ⟨getparams_valid_iff id, setparams_valid_iff id⟩

/-- A vendor with `sony-iso` and the list of its modes, but without a mode. -/
theorem mode_missing : ¬∀ (id : Int) (p : CameraParameters),
    (cameraFixupGetparams id p).Meets Access.Valid ∧
      (cameraFixupSetparams id p).Meets Access.Valid := by
  intro h
  have hvalid := (h 0 (((CameraParameters.mk fun _ => none).set keySonyIsoMode "100").set
    keySonyAeModeValues "auto,manual")).1
  have hmode := ((getparams_valid_iff 0).mp hvalid).aeMode (by decide) (by decide)
  revert hmode
  decide

end

/-! ## Buffers -/

/-- A text that is written has room in its buffer, with its terminator. -/
def Access.Fits : Access → Prop
  | .write text size => text.length + 1 ≤ size
  | _ => True

/-- The vendor's values for which the buffers of `camera_fixup_getparams` are large enough. For an
ISO value behind `ISO` the buffer never is: it has no room for the terminator. -/
structure FitsBuffers (p : CameraParameters) : Prop where
  sceneModes : Contains (p.get keySonyImageStabiliserValues) valueSonyStillHdr →
    ∀ modes, p.get keySupportedSceneModes = some modes → modes.length ≤ 507
  isoModes : ∀ list, p.get keySonyIsoAvailModes = some list →
    list.length + 3 * list.toList.count ',' ≤ 246
  isoVal : (p.get keySonyIsoMode).isSome → (p.get keySonyAeModeValues).isSome →
    p.get keySonyAeMode ≠ some "iso-prio" ∧ p.get keySonyAeMode ≠ some "manual"

section
variable {p : CameraParameters}

theorem capability_fits_iff : (cameraFixupCapability p).Meets Access.Fits ↔
    (Contains (p.get keySonyImageStabiliserValues) valueSonyStillHdr →
      ∀ modes, p.get keySupportedSceneModes = some modes → modes.length ≤ 507) := by
  have hhdr : ",hdr".length = 4 := by decide
  have hnull : "(null),hdr".length = 10 := by decide
  unfold cameraFixupCapability
  cases p.get keySonyImageStabiliserValues with
  | none => simp [not_contains_none]
  | some stabilisers =>
    cases p.get keySupportedSceneModes with
    | none => simp [contains_some, Access.Fits, hnull]
    | some modes =>
      have hroom : modes.length + 4 < 512 ↔ modes.length ≤ 507 := by omega
      simp [contains_some, Access.Fits, hhdr, hroom]

theorem getIsoModes_fits_iff : (getIsoModes p).Meets Access.Fits ↔
    ∀ list, p.get keySonyIsoAvailModes = some list →
      list.length + 3 * list.toList.count ',' ≤ 246 := by
  cases hlist : p.get keySonyIsoAvailModes with
  | none => simp [getIsoModes, hlist]
  | some list =>
    have hlength := list.length_toList
    rw [getIsoModes_list hlist]
    simp [Access.Fits, length_isoModes]
    omega

theorem getSceneMode_fits : (getSceneMode p).Meets Access.Fits := by
  unfold getSceneMode
  cases p.get keySonyImageStabiliser <;> simp [Access.Fits]

/-- `malloc` gets the length of the text without its terminator. -/
theorem getIsoVal_not_fits {iso : String} (h : p.get keySonyIsoMode = some iso) :
    ¬(getIsoVal p).Meets Access.Fits := by
  have hprefix : "ISO".length = 3 := by decide
  simp [getIsoVal, h, Access.Fits, hprefix]

theorem getAeMode_fits_iff : (getAeMode p).Meets Access.Fits ↔
    ((p.get keySonyIsoMode).isSome → (p.get keySonyAeModeValues).isSome →
      p.get keySonyAeMode ≠ some "iso-prio" ∧ p.get keySonyAeMode ≠ some "manual") := by
  unfold getAeMode
  cases hiso : p.get keySonyIsoMode with
  | none => simp
  | some iso =>
    have hspeed : (getShutterSpeed p).get keySonyIsoMode = some iso :=
      (get_getShutterSpeed (by decide)).trans hiso
    cases hmode : p.get keySonyAeMode with
    | none => simp [Access.Fits, strcmp]
    | some mode =>
      by_cases hprio : mode = "iso-prio"
      · subst hprio
        simp [Access.Fits, getIsoVal_not_fits hiso]
      · by_cases hmanual : mode = "manual"
        · subst hmanual
          simp [Access.Fits, getIsoVal_not_fits hspeed]
        · simp [Access.Fits, hprio, hmanual]

/-- `camera_fixup_getparams` stays in its buffers exactly with a scene mode list of at most 507
bytes, an ISO list whose translation has at most 254, and no ISO value to show. -/
theorem getparams_fits_iff (id : Int) (p : CameraParameters) :
    (cameraFixupGetparams id p).Meets Access.Fits ↔ FitsBuffers p := by
  obtain ⟨q, r, s, hkeep, hkeep', hmeets⟩ := getparams_meets id p
  rw [hmeets, capability_fits_iff, getIsoModes_fits_iff, getAeMode_fits_iff,
    hkeep _ (by decide), hkeep' _ (by decide), hkeep' _ (by decide), hkeep' _ (by decide)]
  constructor
  · rintro ⟨hscene, hmodes, _, hval⟩
    exact ⟨hscene, hmodes, hval⟩
  · rintro ⟨hscene, hmodes, hval⟩
    exact ⟨hscene, hmodes, getSceneMode_fits, hval⟩

/-- `ISO100` and its terminator are seven bytes, and the buffer has six. -/
theorem iso_val_past_end : ¬∀ (id : Int) (p : CameraParameters),
    (cameraFixupGetparams id p).Meets Access.Fits := by
  intro h
  let p := (((CameraParameters.mk fun _ => none).set keySonyIsoMode "100").set
    keySonyAeModeValues "auto,iso-prio").set keySonyAeMode "iso-prio"
  have hwrite : .write "ISO100" 6 ∈ (cameraFixupGetparams 0 p).accesses := by
    decide
  have hfits : 7 ≤ 6 := h 0 p _ hwrite
  omega

end

end Camera
end Huashan
