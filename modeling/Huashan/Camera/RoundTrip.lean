import Huashan.Camera.Exposure

/-!
# Huashan.Camera.RoundTrip

The two fix-ups one after the other. What the application sets it reads back. What the vendor sets
it gets back from an application that changes nothing, except for a shutter speed mode without a
shutter speed.
-/

namespace Huashan
namespace Camera

variable {p : CameraParameters}

/-! ## The parts without exposure settings -/

theorem cameraFixupCapability_spec (p : CameraParameters) :
    ∃ q, (cameraFixupCapability p).value = some q ∧
      ∀ k, k ≠ keySupportedSceneModes → q.get k = p.get k := by
  unfold cameraFixupCapability
  cases hmodes : p.get keySonyImageStabiliserValues with
  | none => exact ⟨p, rfl, fun _ _ => rfl⟩
  | some modes =>
    by_cases hhdr : valueSonyStillHdr.toList <:+: modes.toList
    · refine ⟨p.set keySupportedSceneModes
        ("" ++ (p.get keySupportedSceneModes).getD "(null)" ++ ",hdr"), ?_, ?_⟩
      · simp [hhdr]
      · exact fun k hk => p.get_set_of_ne _ hk
    · refine ⟨p, ?_, fun _ _ => rfl⟩
      simp [hhdr]

theorem getIsoModes_spec (p : CameraParameters) :
    ∃ q, (getIsoModes p).value = some q ∧
      ∀ k, k ≠ keySupportedIsoModes → q.get k = p.get k := by
  unfold getIsoModes
  split
  · exact ⟨p, rfl, fun _ _ => rfl⟩
  · exact ⟨_, rfl, fun k hk => p.get_set_of_ne _ hk⟩

/-- The scene mode the application is shown. -/
def shownSceneMode (p : CameraParameters) : Option String :=
  if p.get keySonyImageStabiliser = some valueSonyStillHdr then some "hdr"
  else p.get keySceneMode

theorem getSceneMode_spec (p : CameraParameters) :
    ∃ q, (getSceneMode p).value = some q ∧ q.get keySceneMode = shownSceneMode p ∧
      ∀ k, k ≠ keySceneMode → q.get k = p.get k := by
  unfold getSceneMode shownSceneMode
  cases hsony : p.get keySonyImageStabiliser with
  | none => exact ⟨p, rfl, rfl, fun _ _ => rfl⟩
  | some sonyIs =>
    by_cases hhdr : sonyIs = valueSonyStillHdr
    · refine ⟨p.set keySceneMode "hdr", ?_, ?_, fun k hk => p.get_set_of_ne _ hk⟩
      · simp [hhdr]
      · simp [hhdr]
    · refine ⟨p, ?_, ?_, fun _ _ => rfl⟩
      · simp [hhdr]
      · simp [hhdr]

theorem get_getVideoHdr {k : String} (hk : k ≠ "video-hdr-values") (hk' : k ≠ "video-hdr") :
    (getVideoHdr p).get k = p.get k := by
  unfold getVideoHdr
  split
  · exact ((p.set _ _).get_set_of_ne _ hk').trans (p.get_set_of_ne _ hk)
  · rfl

theorem setSceneMode_spec {sceneMode : String} (h : p.get keySceneMode = some sceneMode) :
    ∃ q, (setSceneMode p).value = some q ∧ shownSceneMode q = some sceneMode ∧
      ∀ k, k ≠ keySonyImageStabiliser → k ≠ keySceneMode → q.get k = p.get k := by
  unfold setSceneMode
  by_cases hhdr : sceneMode = "hdr"
  · refine ⟨(p.set keySonyImageStabiliser valueSonyStillHdr).set keySceneMode sceneModeAuto,
      by simp [h, hhdr], ?_, ?_⟩
    · have hsony := (p.set keySonyImageStabiliser valueSonyStillHdr).get_set_of_ne
        sceneModeAuto (show keySonyImageStabiliser ≠ keySceneMode by decide)
      rw [shownSceneMode, hsony, if_pos (p.get_set_self _ _), hhdr]
    · exact fun k hk hk' => ((p.set _ _).get_set_of_ne _ hk').trans (p.get_set_of_ne _ hk)
  · refine ⟨p.set keySonyImageStabiliser valueSonyOn, by simp [h, hhdr], ?_, ?_⟩
    · rw [shownSceneMode, p.get_set_self, if_neg (by decide)]
      exact (p.get_set_of_ne _ (by decide)).trans h
    · exact fun k hk _ => p.get_set_of_ne _ hk

theorem setSceneMode_none (h : p.get keySceneMode = none) : (setSceneMode p).value = some p := by
  simp only [setSceneMode, h, Fixup.value_pure]

theorem get_setVideoHdr {k : String} (hk : k ≠ keySonyVideoHdr) :
    (setVideoHdr p).get k = p.get k := by
  unfold setVideoHdr
  split
  · exact p.get_set_of_ne _ hk
  · rfl

theorem setStabilisers_of_ne (h : p.get keyRecordingHint ≠ some valueTrue) :
    (setStabilisers p).value = some p := by
  unfold setStabilisers
  cases hhint : p.get keyRecordingHint with
  | none => rfl
  | some hint =>
    have hne : hint ≠ valueTrue := fun he => h (hhint.trans (congrArg some he))
    simp [hne]

theorem setStabilisers_spec (p : CameraParameters) :
    ∃ q, (setStabilisers p).value = some q ∧
      ∀ k, k ≠ keySonyVideoStabiliser → k ≠ keySonyImageStabiliser → q.get k = p.get k := by
  by_cases htrue : p.get keyRecordingHint = some valueTrue
  · unfold setStabilisers
    cases p.get keySonyVideoStabiliserValues <;>
      refine ⟨_, by simp [htrue]; rfl, fun k hk hk' => ?_⟩ <;>
      exact ((p.set _ _).get_set_of_ne _ hk').trans (p.get_set_of_ne _ hk)
  · exact ⟨p, setStabilisers_of_ne htrue, fun _ _ _ => rfl⟩

/-! ## The whole fix-ups -/

/-- `camera_fixup_getparams` is its last part on parameters with the same exposure. -/
theorem getparams_value (id : Int) (p : CameraParameters) :
    ∃ q, (cameraFixupGetparams id p).value = (getAeMode q).value ∧
      q.get keySceneMode = shownSceneMode p ∧
      ∀ k, k ∉ [keySupportedSceneModes, keyPreferredPreviewSizeForVideo, keySupportedIsoModes,
        keySceneMode, "video-hdr-values", "video-hdr"] → q.get k = p.get k := by
  let size := if id = 0 then "1280x720" else "640x480"
  obtain ⟨q₁, hq₁, hkeep₁⟩ := cameraFixupCapability_spec p
  obtain ⟨q₂, hq₂, hkeep₂⟩ := getIsoModes_spec (q₁.set keyPreferredPreviewSizeForVideo size)
  obtain ⟨q₃, hq₃, hscene, hkeep₃⟩ := getSceneMode_spec q₂
  have hkeep : ∀ k, k ≠ keySupportedSceneModes → k ≠ keyPreferredPreviewSizeForVideo →
      k ≠ keySupportedIsoModes → q₂.get k = p.get k := by
    intro k h₁ h₂ h₃
    rw [hkeep₂ k h₃, q₁.get_set_of_ne size h₂, hkeep₁ k h₁]
  refine ⟨getVideoHdr q₃, ?_, ?_, ?_⟩
  · simp only [cameraFixupGetparams, Fixup.value_bind, hq₁, Option.bind_some]
    rw [hq₂, Option.bind_some, hq₃, Option.bind_some]
  · rw [get_getVideoHdr (by decide) (by decide), hscene, shownSceneMode, shownSceneMode,
      hkeep _ (by decide) (by decide) (by decide), hkeep _ (by decide) (by decide) (by decide)]
  · intro k hk
    simp only [List.mem_cons, not_or] at hk
    obtain ⟨h₁, h₂, h₃, h₄, h₅, h₆, _⟩ := hk
    rw [get_getVideoHdr h₅ h₆, hkeep₃ k h₄, hkeep k h₁ h₂ h₃]

/-- `camera_fixup_setparams` is its exposure parts, and more that keeps the exposure. -/
theorem setparams_value (id : Int) {q : CameraParameters}
    (hq : ((setShutterSpeed p).value.bind fun q => (setIsoMode q).value) = some q) :
    ∃ r, (cameraFixupSetparams id p).value = some r ∧
      (∀ v, q.get keySceneMode = some v → q.get keyRecordingHint ≠ some valueTrue →
        shownSceneMode r = some v) ∧
      ∀ k, k ∉ [keySonyImageStabiliser, keySceneMode, keySonyVideoHdr, keySonyVideoStabiliser] →
        r.get k = q.get k := by
  obtain ⟨q₁, hq₁, hscene₁, hkeep₁⟩ : ∃ q₁, (setSceneMode q).value = some q₁ ∧
      (∀ v, q.get keySceneMode = some v → shownSceneMode q₁ = some v) ∧
      ∀ k, k ≠ keySonyImageStabiliser → k ≠ keySceneMode → q₁.get k = q.get k := by
    cases hscene : q.get keySceneMode with
    | none => exact ⟨q, setSceneMode_none hscene, fun _ h => (nomatch h), fun _ _ _ => rfl⟩
    | some v =>
      obtain ⟨q₁, hq₁, hshown, hkeep⟩ := setSceneMode_spec hscene
      exact ⟨q₁, hq₁, fun w hw => hw ▸ hshown, hkeep⟩
  obtain ⟨r, hr, hkeep⟩ := setStabilisers_spec (setVideoHdr q₁)
  refine ⟨r, ?_, ?_, ?_⟩
  · have hvalue : (cameraFixupSetparams id p).value =
        ((setShutterSpeed p).value.bind fun q => (setIsoMode q).value).bind fun q =>
          (setSceneMode q).value.bind fun q => (setStabilisers (setVideoHdr q)).value := by
      simp only [cameraFixupSetparams, Fixup.value_bind, Option.bind_assoc]
    rw [hvalue, hq, Option.bind_some, hq₁, Option.bind_some, hr]
  · intro v hv hhint
    have hhint' : (setVideoHdr q₁).get keyRecordingHint ≠ some valueTrue := by
      rwa [get_setVideoHdr (by decide), hkeep₁ _ (by decide) (by decide)]
    rw [setStabilisers_of_ne hhint'] at hr
    cases hr
    rw [← hscene₁ v hv, shownSceneMode, shownSceneMode, get_setVideoHdr (by decide),
      get_setVideoHdr (by decide)]
  · intro k hk
    simp only [List.mem_cons, not_or] at hk
    obtain ⟨h₁, h₂, h₃, h₄, _⟩ := hk
    rw [hkeep k h₄ h₁, get_setVideoHdr h₃, hkeep₁ k h₁ h₂]

/-- The vendor's exposure settings are the same. -/
structure SameExposure (p q : CameraParameters) : Prop where
  mode : q.get keySonyAeMode = p.get keySonyAeMode
  iso : q.get keySonyIsoMode = p.get keySonyIsoMode
  shutter : q.get "sony-shutter-speed" = p.get "sony-shutter-speed"

theorem SameExposure.shown {q : CameraParameters} (h : SameExposure p q) {e : Exposure}
    (he : e.ShownToVendor p) : e.ShownToVendor q where
  mode := h.mode.trans he.mode
  iso := fun v hv => h.iso.trans (he.iso v hv)
  shutter := fun s hs => h.shutter.trans (he.shutter s hs)

/-- Any shutter speed makes an exposure. -/
theorem exists_shown {iso : Option String} {v : String}
    (hiso : p.get keyIsoMode = some (Exposure.isoMode ⟨iso, none⟩))
    (hv : p.get "shutter-speed" = some v) :
    ∃ shutter, Exposure.ShownToApplication ⟨iso, shutter⟩ p := by
  by_cases hauto : v = "auto"
  · exact ⟨none, hiso, hv.trans (congrArg some hauto)⟩
  · exact ⟨some ⟨v, hauto⟩, hiso, hv⟩

/-! ## The application's view -/

/-- A parameter map given by the application. -/
structure Application (A : CameraParameters) : Prop where
  auto : Contains (A.get keySonyAeModeValues) "auto"
  isoPrio : Contains (A.get keySonyAeModeValues) "iso-prio"
  aeMode : (A.get keySonyAeMode).isSome
  sonyIso : (A.get keySonyIsoMode).isSome
  isoMode : A.get keyIsoMode = some "auto" ∨ ∃ v, v ≠ "" ∧ A.get keyIsoMode = some ("ISO" ++ v)
  shutterSpeed : ∃ v, v ≠ "" ∧ A.get "shutter-speed" = some v
  sceneMode : (A.get keySceneMode).isSome
  recordingHint : A.get keyRecordingHint ≠ some valueTrue

/-- What the application sets is an exposure. -/
theorem Application.exposure {A : CameraParameters} (hA : Application A) :
    ∃ e : Exposure, e.ShownToApplication A := by
  obtain ⟨v, _, hv⟩ := hA.shutterSpeed
  rcases hA.isoMode with hiso | ⟨w, _, hiso⟩
  · have hmode : A.get keyIsoMode = some (Exposure.isoMode ⟨none, none⟩) := hiso
    obtain ⟨shutter, he⟩ := exists_shown hmode hv
    exact ⟨_, he⟩
  · have hmode : A.get keyIsoMode = some (Exposure.isoMode ⟨some w, none⟩) := hiso
    obtain ⟨shutter, he⟩ := exists_shown hmode hv
    exact ⟨_, he⟩

/-- The application reads back the ISO mode, the shutter speed and the scene mode it set. -/
theorem getparams_setparams (id : Int) {A : CameraParameters} (hA : Application A) :
    ∃ B C, (cameraFixupSetparams id A).value = some B ∧
      (cameraFixupGetparams id B).value = some C ∧ C.get keyIsoMode = A.get keyIsoMode ∧
      C.get "shutter-speed" = A.get "shutter-speed" ∧
      C.get keySceneMode = A.get keySceneMode := by
  obtain ⟨e, he⟩ := hA.exposure
  obtain ⟨scene, hscene⟩ := Option.isSome_iff_exists.mp hA.sceneMode
  obtain ⟨q, hq, hset⟩ := setExposure he hA.auto hA.isoPrio
  obtain ⟨B, hB, hsceneB, hkeepB⟩ := setparams_value id hq
  obtain ⟨q', hq', hsceneQ, hkeepQ⟩ := getparams_value id B
  have hsame : SameExposure q q' := by
    constructor <;> exact (hkeepQ _ (by decide)).trans (hkeepB _ (by decide))
  have hiso : (q'.get keySonyIsoMode).isSome := by
    rw [hsame.iso]
    cases heiso : e.iso with
    | none => rw [hset.iso heiso]; exact hA.sonyIso
    | some v => rw [hset.shown.iso v heiso]; rfl
  have hvalues : (q'.get keySonyAeModeValues).isSome := by
    rw [hkeepQ _ (by decide), hkeepB _ (by decide), hset.other _ (by decide)]
    exact hA.auto.isSome
  have hvendor := hsame.shown hset.shown
  obtain ⟨mode, hmode⟩ : ∃ mode, q'.get keySonyAeMode = some mode := ⟨_, hvendor.mode⟩
  obtain ⟨iso, hiso'⟩ := Option.isSome_iff_exists.mp hiso
  obtain ⟨C, hC, hshown⟩ := getExposure hvendor hiso hvalues
  refine ⟨B, C, hB, hq'.trans hC, ?_, ?_, ?_⟩
  · rw [hshown.isoMode, he.isoMode]
  · rw [hshown.shutterSpeed, he.shutterSpeed]
  · have hhint : q.get keyRecordingHint ≠ some valueTrue := by
      rw [hset.other _ (by decide)]
      exact hA.recordingHint
    have hsceneq : q.get keySceneMode = some scene := by
      rw [hset.other _ (by decide), hscene]
    rw [getAeMode_other hiso' hvalues hmode hC (by decide) (by decide), hsceneQ,
      hsceneB scene hsceneq hhint, hscene]

/-- A vendor without shutter speeds, in the mode `mode`. -/
def vendorParameters (mode : String) : CameraParameters :=
  ((CameraParameters.mk fun _ => none).set keySonyAeModeValues
    "auto,iso-prio,shutter-prio,manual").set keySonyAeMode mode |>.set keySonyIsoMode "100"

/-- Its application with a manual exposure and the HDR scene mode. -/
def manualApplication : CameraParameters :=
  (((vendorParameters "auto").set keyIsoMode "ISO400").set "shutter-speed" "1/50").set
    keySceneMode "hdr"

theorem getparams_setparams_manual : ∃ B C, (cameraFixupSetparams 0 manualApplication).value =
      some B ∧ (cameraFixupGetparams 0 B).value = some C ∧
      C.get keyIsoMode = manualApplication.get keyIsoMode ∧
      C.get "shutter-speed" = manualApplication.get "shutter-speed" ∧
      C.get keySceneMode = manualApplication.get keySceneMode := by
  refine getparams_setparams 0 ⟨⟨_, rfl, by decide⟩, ⟨_, rfl, by decide⟩, by decide, by decide,
    .inr ⟨"400", by decide, by decide⟩, ⟨"1/50", by decide, by decide⟩, by decide, by decide⟩

/-! ## The vendor's view -/

/-- A parameter map of the vendor. -/
structure Vendor (P : CameraParameters) : Prop where
  auto : Lists (P.get keySonyAeModeValues) "auto"
  isoPrio : Lists (P.get keySonyAeModeValues) "iso-prio"
  shutterPrio : Lists (P.get keySonyAeModeValues) "shutter-prio"
  manual : Lists (P.get keySonyAeModeValues) "manual"
  mode : ∃ mode ∈ ["auto", "iso-prio", "shutter-prio", "manual"],
    P.get keySonyAeMode = some mode
  iso : ∃ iso, iso ≠ "" ∧ P.get keySonyIsoMode = some iso
  shutter : P.get "sony-shutter-speed" = none ∨
    ∃ s, s ≠ "" ∧ s ≠ "auto" ∧ P.get "sony-shutter-speed" = some s

/-- The mode needs no shutter speed, or there is one, or the mode is `shutter-prio` and no earlier
call has left a `shutter-speed`. -/
def HasShutterSpeed (P : CameraParameters) : Prop :=
  P.get keySonyAeMode = some "auto" ∨ P.get keySonyAeMode = some "iso-prio" ∨
    (P.get "sony-shutter-speed").isSome ∨
    (P.get keySonyAeMode = some "shutter-prio" ∧ P.get "shutter-speed" = none)

/-- Both fix-ups, one after the other, keep the exposure settings. -/
def KeepsExposure (id : Int) (P : CameraParameters) : Prop :=
  ∃ Q R, (cameraFixupGetparams id P).value = some Q ∧
    (cameraFixupSetparams id Q).value = some R ∧ SameExposure P R

theorem keepsExposure_iff {id : Int} {P Q q : CameraParameters}
    (hQ : (cameraFixupGetparams id P).value = some Q)
    (hq : ((setShutterSpeed Q).value.bind fun q => (setIsoMode q).value) = some q) :
    KeepsExposure id P ↔ SameExposure P q := by
  obtain ⟨R, hR, _, hkeep⟩ := setparams_value id hq
  have hsame : SameExposure P R ↔ SameExposure P q := by
    constructor <;> intro h <;> constructor
    · exact (hkeep _ (by decide)).symm.trans h.mode
    · exact (hkeep _ (by decide)).symm.trans h.iso
    · exact (hkeep _ (by decide)).symm.trans h.shutter
    · exact (hkeep _ (by decide)).trans h.mode
    · exact (hkeep _ (by decide)).trans h.iso
    · exact (hkeep _ (by decide)).trans h.shutter
  constructor
  · rintro ⟨Q', R', hQ', hR', h⟩
    cases hQ.symm.trans hQ'
    cases hR.symm.trans hR'
    exact hsame.mp h
  · exact fun h => ⟨Q, R, hQ, hR, hsame.mpr h⟩

/-- The vendor's keys after `camera_fixup_getparams`. -/
theorem Vendor.getparams_keeps {P : CameraParameters} (hP : Vendor P) {q Q : CameraParameters}
    (hkeep : ∀ k, k ∉ [keySupportedSceneModes, keyPreferredPreviewSizeForVideo,
      keySupportedIsoModes, keySceneMode, "video-hdr-values", "video-hdr"] → q.get k = P.get k)
    (hQ : (getAeMode q).value = some Q) :
    SameExposure P Q ∧ Q.get keySonyAeModeValues = P.get keySonyAeModeValues := by
  obtain ⟨mode, _, hmode⟩ := hP.mode
  obtain ⟨iso, _, hiso⟩ := hP.iso
  have hvalues : (q.get keySonyAeModeValues).isSome := by
    rw [hkeep _ (by decide)]
    exact hP.auto.contains.isSome
  have hother : ∀ k, k ≠ keyIsoMode → k ≠ "shutter-speed" → Q.get k = q.get k := fun k h h' =>
    getAeMode_other ((hkeep _ (by decide)).trans hiso) hvalues
      ((hkeep _ (by decide)).trans hmode) hQ h h'
  refine ⟨⟨?_, ?_, ?_⟩, ?_⟩
  all_goals exact (hother _ (by decide) (by decide)).trans (hkeep _ (by decide))

/-- The vendor gets back the exposure settings that it gave, when the settings are an exposure. -/
theorem Vendor.keeps_of_shown {P : CameraParameters} (hP : Vendor P) {e : Exposure}
    (he : e.ShownToVendor P) (id : Int) : KeepsExposure id P := by
  obtain ⟨q, hq, _, hkeep⟩ := getparams_value id P
  have hsame : SameExposure P q := by constructor <;> exact hkeep _ (by decide)
  have hiso : (q.get keySonyIsoMode).isSome := by
    obtain ⟨iso, _, hiso⟩ := hP.iso
    rw [hsame.iso, hiso]
    rfl
  have hvalues : (q.get keySonyAeModeValues).isSome := by
    rw [hkeep _ (by decide)]
    exact hP.auto.contains.isSome
  obtain ⟨Q, hQ, hshown⟩ := getExposure (hsame.shown he) hiso hvalues
  obtain ⟨hsameQ, hvaluesQ⟩ := hP.getparams_keeps hkeep hQ
  obtain ⟨r, hr, hset⟩ := setExposure hshown (hvaluesQ ▸ hP.auto.contains)
    (hvaluesQ ▸ hP.isoPrio.contains)
  refine (keepsExposure_iff (hq.trans hQ) hr).mpr ⟨?_, ?_, ?_⟩
  · rw [hset.shown.mode, he.mode]
  · cases heiso : e.iso with
    | none => exact (hset.iso heiso).trans hsameQ.iso
    | some v => rw [hset.shown.iso v heiso, he.iso v heiso]
  · cases hshutter : e.shutter with
    | none => exact (hset.shutter hshutter).trans hsameQ.shutter
    | some s => rw [hset.shown.shutter s hshutter, he.shutter s hshutter]

/-- In a mode with a shutter speed, but without one, the application is shown what an earlier call
has left. -/
theorem Vendor.getparams_leftover {P : CameraParameters} (hP : Vendor P) {mode : String}
    (hmode : P.get keySonyAeMode = some mode) (hspeed : mode = "shutter-prio" ∨ mode = "manual")
    (hshutter : P.get "sony-shutter-speed" = none) (id : Int) :
    ∃ Q iso, (cameraFixupGetparams id P).value = some Q ∧ SameExposure P Q ∧
      Q.get keySonyAeModeValues = P.get keySonyAeModeValues ∧
      Q.get "shutter-speed" = P.get "shutter-speed" ∧
      Q.get keyIsoMode = some (Exposure.isoMode ⟨iso, none⟩) ∧
      (mode = "shutter-prio" ↔ iso = none) := by
  obtain ⟨iso, _, hiso⟩ := hP.iso
  obtain ⟨q, hq, _, hkeep⟩ := getparams_value id P
  have hvalues : (q.get keySonyAeModeValues).isSome := by
    rw [hkeep _ (by decide)]
    exact hP.auto.contains.isSome
  have hshutterq : q.get "sony-shutter-speed" = none := (hkeep _ (by decide)).trans hshutter
  have hvalue := getAeMode_mode ((hkeep keySonyIsoMode (by decide)).trans hiso) hvalues
    ((hkeep keySonyAeMode (by decide)).trans hmode)
  have hleft : q.get "shutter-speed" = P.get "shutter-speed" := hkeep _ (by decide)
  rcases hspeed with rfl | rfl
  · have hnone : (q.set keyIsoMode "auto").get "sony-shutter-speed" = none :=
      (q.get_set_of_ne _ (by decide)).trans hshutterq
    rw [if_neg (by decide), if_pos rfl, getShutterSpeed_none hnone] at hvalue
    obtain ⟨hsame, hmodes⟩ := hP.getparams_keeps hkeep hvalue
    refine ⟨_, none, hq.trans hvalue, hsame, hmodes, ?_, q.get_set_self _ _, by decide⟩
    exact (q.get_set_of_ne _ (by decide)).trans hleft
  · rw [if_neg (by decide), if_neg (by decide), if_pos rfl, getShutterSpeed_none hshutterq]
      at hvalue
    obtain ⟨hsame, hmodes⟩ := hP.getparams_keeps hkeep hvalue
    refine ⟨_, some iso, hq.trans hvalue, hsame, hmodes, ?_, q.get_set_self _ _, by simp⟩
    exact (q.get_set_of_ne _ (by decide)).trans hleft

/-- In such a mode the settings are kept exactly when the mode is `shutter-prio` and nothing is
left. -/
theorem Vendor.keeps_leftover_iff {P : CameraParameters} (hP : Vendor P) {mode : String}
    (hmode : P.get keySonyAeMode = some mode) (hspeed : mode = "shutter-prio" ∨ mode = "manual")
    (hshutter : P.get "sony-shutter-speed" = none) (id : Int) :
    KeepsExposure id P ↔ mode = "shutter-prio" ∧ P.get "shutter-speed" = none := by
  obtain ⟨Q, iso, hQ, hsame, hmodes, hleft, hiso, hprio⟩ :=
    hP.getparams_leftover hmode hspeed hshutter id
  have hauto : Contains (Q.get keySonyAeModeValues) "auto" := hmodes ▸ hP.auto.contains
  have hisoPrio : Contains (Q.get keySonyAeModeValues) "iso-prio" := hmodes ▸ hP.isoPrio.contains
  cases hv : P.get "shutter-speed" with
  | none =>
    have hset := setShutterSpeed_none (hleft.trans hv)
    cases iso with
    | none =>
      have hvalue := setIsoMode_auto hiso hauto (hsame.mode.trans hmode)
      rw [if_pos (hprio.mpr rfl)] at hvalue
      have hq : ((setShutterSpeed Q).value.bind fun q => (setIsoMode q).value) = some Q := by
        rw [hset, Option.bind_some, hvalue]
      exact iff_of_true ((keepsExposure_iff hQ hq).mpr hsame) ⟨hprio.mpr rfl, rfl⟩
    | some v =>
      have hne : mode ≠ "shutter-prio" := fun h => (nomatch hprio.mp h)
      have hvalue := setIsoMode_iso hiso hisoPrio (hsame.mode.trans hmode)
      rw [if_neg hne] at hvalue
      have hq : ((setShutterSpeed Q).value.bind fun q => (setIsoMode q).value) =
          some ((Q.set keySonyIsoMode v).set keySonyAeMode "iso-prio") := by
        rw [hset, Option.bind_some, hvalue]
      refine iff_of_false (fun h => ?_) (fun h => hne h.1)
      -- a manual mode becomes `iso-prio`
      have hkept := ((keepsExposure_iff hQ hq).mp h).mode
      rw [CameraParameters.get_set_self, hmode, hspeed.resolve_left hne] at hkept
      revert hkept
      decide
  | some v =>
    refine iff_of_false (fun h => ?_) (fun h => nomatch h.2)
    -- the vendor is set the exposure that the application is shown
    obtain ⟨shutter, he⟩ := exists_shown hiso (hleft.trans hv)
    obtain ⟨q, hq, hset⟩ := setExposure he hauto hisoPrio
    have hkept := (keepsExposure_iff hQ hq).mp h
    cases shutter with
    | some s =>
      have hspeed := hset.shown.shutter s rfl
      rw [hkept.shutter, hshutter] at hspeed
      cases hspeed
    | none =>
      have hmode' := hset.shown.mode
      rw [hkept.mode, hmode] at hmode'
      cases hmode'
      cases iso <;> simp [Exposure.mode] at hspeed

/-- The vendor gets back the exposure settings that it gave exactly when a mode that has a shutter
speed has one, or when the mode is `shutter-prio` and no call has left a `shutter-speed`. -/
theorem setparams_getparams_iff (id : Int) {P : CameraParameters} (hP : Vendor P) :
    KeepsExposure id P ↔ HasShutterSpeed P := by
  obtain ⟨mode, hmem, hmode⟩ := hP.mode
  obtain ⟨iso, _, hiso⟩ := hP.iso
  -- the settings are an exposure unless a shutter speed is missing
  have hkeeps : ∀ e : Exposure, mode = e.mode → (∀ v, e.iso = some v → v = iso) →
      (∀ s, e.shutter = some s → P.get "sony-shutter-speed" = some s.val) →
      KeepsExposure id P := fun e he heiso hshutter =>
    hP.keeps_of_shown ⟨hmode.trans (congrArg some he), fun v hv => heiso v hv ▸ hiso, hshutter⟩ id
  simp only [List.mem_cons, List.not_mem_nil, or_false] at hmem
  rcases hmem with rfl | rfl | hspeed
  · refine iff_of_true (hkeeps ⟨none, none⟩ rfl ?_ ?_) (.inl hmode)
    · exact fun _ h => (nomatch h)
    · exact fun _ h => (nomatch h)
  · refine iff_of_true (hkeeps ⟨some iso, none⟩ rfl ?_ ?_) (.inr (.inl hmode))
    · exact fun _ h => (Option.some.inj h).symm
    · exact fun _ h => (nomatch h)
  · rcases hP.shutter with hshutter | ⟨s, _, hauto, hs⟩
    · rw [hP.keeps_leftover_iff hmode hspeed hshutter, HasShutterSpeed, hmode, hshutter]
      rcases hspeed with rfl | rfl <;> simp
    · refine iff_of_true ?_ (.inr (.inr (.inl (by rw [hs]; rfl))))
      rcases hspeed with rfl | rfl
      · refine hkeeps ⟨none, some ⟨s, hauto⟩⟩ rfl (fun _ h => (nomatch h)) ?_
        exact fun _ h => Option.some.inj h ▸ hs
      · refine hkeeps ⟨some iso, some ⟨s, hauto⟩⟩ rfl (fun _ h => (Option.some.inj h).symm) ?_
        exact fun _ h => Option.some.inj h ▸ hs

theorem vendor_vendorParameters : Vendor (vendorParameters "manual") :=
  ⟨⟨_, rfl, by decide⟩, ⟨_, rfl, by decide⟩, ⟨_, rfl, by decide⟩, ⟨_, rfl, by decide⟩,
    ⟨"manual", by decide, rfl⟩, ⟨"100", by decide, rfl⟩, .inl rfl⟩

theorem setparams_getparams_manual :
    KeepsExposure 0 (vendorParameters "manual") ↔ HasShutterSpeed (vendorParameters "manual") :=
  setparams_getparams_iff 0 vendor_vendorParameters

/-- A manual mode without a shutter speed comes back as `iso-prio`. -/
theorem manual_becomes_isoPrio :
    ¬ ∀ (id : Int) (P : CameraParameters), Vendor P → KeepsExposure id P := by
  intro h
  obtain ⟨Q, R, hQ, hR, hsame⟩ := h 0 _ vendor_vendorParameters
  have hvalue : ((cameraFixupGetparams 0 (vendorParameters "manual")).value.bind fun Q =>
      (cameraFixupSetparams 0 Q).value.bind fun R => R.get keySonyAeMode) = some "iso-prio" := by
    decide
  rw [hQ, Option.bind_some, hR, Option.bind_some, hsame.mode] at hvalue
  revert hvalue
  decide

end Camera
end Huashan
