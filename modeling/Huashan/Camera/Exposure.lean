import Huashan.Camera.Parameters

/-!
# Huashan.Camera.Exposure

The exposure settings in both sets of parameters. An exposure is automatic in the ISO value, in
the shutter speed, in both or in neither; the application sees two settings, the vendor one of four
modes and the values that the mode uses. `cameraFixupSetparams` takes the application's view of an
exposure to the vendor's, `cameraFixupGetparams` the vendor's to the application's.
-/

namespace Huashan
namespace Camera

/-! ## Exposures -/

/-- `auto` is no shutter speed. -/
abbrev ShutterSpeed : Type := { s : String // s ≠ "auto" }

/-- `none` is automatic. -/
structure Exposure where
  iso : Option String
  shutter : Option ShutterSpeed
  deriving DecidableEq

namespace Exposure

/-- The vendor's exposure mode. -/
def mode (e : Exposure) : String :=
  match e.iso, e.shutter with
  | none, none => "auto"
  | some _, none => "iso-prio"
  | none, some _ => "shutter-prio"
  | some _, some _ => "manual"

/-- The application's ISO mode. -/
def isoMode (e : Exposure) : String :=
  match e.iso with
  | none => "auto"
  | some v => "ISO" ++ v

/-- The application's shutter speed. -/
def shutterSpeed (e : Exposure) : String :=
  match e.shutter with
  | none => "auto"
  | some s => s

structure ShownToApplication (e : Exposure) (params : CameraParameters) : Prop where
  isoMode : params.get keyIsoMode = some e.isoMode
  shutterSpeed : params.get "shutter-speed" = some e.shutterSpeed

structure ShownToVendor (e : Exposure) (params : CameraParameters) : Prop where
  mode : params.get keySonyAeMode = some e.mode
  iso : ∀ v, e.iso = some v → params.get keySonyIsoMode = some v
  shutter : ∀ s, e.shutter = some s → params.get "sony-shutter-speed" = some s.val

end Exposure

theorem isoMode_ne_auto (v : String) : "ISO" ++ v ≠ "auto" := by
  intro h
  have hlist := congrArg String.toList h
  simp at hlist

/-! ## Lists of values -/

/-- What `strstr` finds. -/
def Contains (values : Option String) (v : String) : Prop :=
  ∃ s, values = some s ∧ v.toList <:+: s.toList

/-- The comma separated list has the item. -/
def Lists (values : Option String) (v : String) : Prop :=
  ∃ s, values = some s ∧ v.toList ∈ s.toList.splitOn ','

theorem infix_intercalate {α : Type*} (sep : List α) {l : List α} :
    ∀ {ls : List (List α)}, l ∈ ls → l <:+: sep.intercalate ls := by
  intro ls
  induction ls with
  | nil => intro h; cases h
  | cons l' ls ih =>
    intro h
    cases ls with
    | nil =>
      rw [List.mem_singleton.mp h, List.intercalate_singleton]
    | cons l'' ls =>
      rw [List.intercalate_cons_cons]
      rcases List.mem_cons.mp h with rfl | h
      · rw [List.append_assoc]
        exact List.infix_append_left
      · exact List.infix_append_of_infix_right (ih h)

theorem Lists.contains {values : Option String} {v : String} (h : Lists values v) :
    Contains values v := by
  obtain ⟨s, hs, hv⟩ := h
  refine ⟨s, hs, ?_⟩
  have hinfix := infix_intercalate [','] hv
  rwa [List.intercalate_splitOn] at hinfix

theorem Contains.value_strstr {values : Option String} {v : String} (h : Contains values v) :
    (strstr values v).value = some true := by
  obtain ⟨s, rfl, hv⟩ := h
  simp [hv]

theorem Contains.isSome {values : Option String} {v : String} (h : Contains values v) :
    values.isSome = true := by
  obtain ⟨s, rfl, _⟩ := h
  rfl

/-! ## What the parts of `camera_fixup_setparams` do -/

section
variable {p : CameraParameters}

theorem setShutterSpeed_none (h : p.get "shutter-speed" = none) :
    (setShutterSpeed p).value = some p := by
  simp only [setShutterSpeed, h, Fixup.value_pure]

theorem setShutterSpeed_auto (h : p.get "shutter-speed" = some "auto")
    (hmodes : Contains (p.get keySonyAeModeValues) "auto") :
    (setShutterSpeed p).value = some (p.set keySonyAeMode "auto") := by
  simp only [setShutterSpeed, h, Fixup.value_bind, value_strcmp, Option.bind_some, decide_true,
    if_true, hmodes.value_strstr, Fixup.value_pure]

theorem setShutterSpeed_speed {v : String} (h : p.get "shutter-speed" = some v)
    (hv : v ≠ "auto") : (setShutterSpeed p).value =
      some ((p.set "sony-shutter-speed" v).set keySonyAeMode "shutter-prio") := by
  simp [setShutterSpeed, h, hv]

theorem setIsoMode_auto {mode : String} (h : p.get keyIsoMode = some "auto")
    (hmodes : Contains (p.get keySonyAeModeValues) "auto")
    (hmode : p.get keySonyAeMode = some mode) : (setIsoMode p).value =
      some (if mode = "shutter-prio" then p else p.set keySonyAeMode "auto") := by
  by_cases hprio : mode = "shutter-prio" <;>
    simp [setIsoMode, setSonyIso, setAeMode, h, hmodes.isSome, hmodes.value_strstr, hmode, hprio]

theorem setIsoMode_iso {mode v : String} (h : p.get keyIsoMode = some ("ISO" ++ v))
    (hmodes : Contains (p.get keySonyAeModeValues) "iso-prio")
    (hmode : p.get keySonyAeMode = some mode) : (setIsoMode p).value =
      some ((p.set keySonyIsoMode v).set keySonyAeMode
        (if mode = "shutter-prio" then "manual" else "iso-prio")) := by
  have hskip : (skip ("ISO" ++ v) 3).value = some v := value_skip_append "ISO" v
  have hsony : (setSonyIso p ("ISO" ++ v)).value = some (p.set keySonyIsoMode v) := by
    simp [setSonyIso, isoMode_ne_auto, hskip]
  have hvalues : (p.set keySonyIsoMode v).get keySonyAeModeValues = p.get keySonyAeModeValues :=
    p.get_set_of_ne v (by decide)
  have hae : (p.set keySonyIsoMode v).get keySonyAeMode = some mode :=
    (p.get_set_of_ne v (by decide)).trans hmode
  by_cases hprio : mode = "shutter-prio" <;>
    simp [setIsoMode, h, hsony, setAeMode, hvalues, hmodes.isSome, hmodes.value_strstr, hae,
      hprio, isoMode_ne_auto]

/-- What the first part leaves to the second one, which keeps the shutter speed, and reads from the
mode whether there is one. -/
structure SetShutter (e : Exposure) (p q : CameraParameters) (mode : String) : Prop where
  aeMode : q.get keySonyAeMode = some mode
  prio : mode = "shutter-prio" ↔ e.shutter ≠ none
  shutter : q.get "sony-shutter-speed" =
    (match e.shutter with | none => p.get "sony-shutter-speed" | some s => some s.val)
  other : ∀ k, k ≠ keySonyAeMode → k ≠ "sony-shutter-speed" → q.get k = p.get k

theorem setShutterSpeed_spec {e : Exposure} (he : e.ShownToApplication p)
    (hauto : Contains (p.get keySonyAeModeValues) "auto") :
    ∃ q mode, (setShutterSpeed p).value = some q ∧ SetShutter e p q mode := by
  obtain ⟨iso, shutter⟩ := e
  obtain ⟨_, hshutter⟩ := he
  cases shutter with
  | none =>
    refine ⟨_, "auto", setShutterSpeed_auto hshutter hauto, p.get_set_self _ _, by simp, ?_, ?_⟩
    · exact p.get_set_of_ne _ (by decide)
    · exact fun k hk _ => p.get_set_of_ne _ hk
  | some s =>
    refine ⟨_, "shutter-prio", setShutterSpeed_speed hshutter s.property,
      (p.set _ _).get_set_self _ _, by simp, ?_, ?_⟩
    · exact ((p.set _ _).get_set_of_ne _ (by decide)).trans (p.get_set_self _ _)
    · exact fun k hk hk' => ((p.set _ _).get_set_of_ne _ hk).trans (p.get_set_of_ne _ hk')

/-- The exposure keys of the vendor after `camera_fixup_setparams`. -/
structure SetExposure (e : Exposure) (p q : CameraParameters) : Prop where
  shown : e.ShownToVendor q
  iso : e.iso = none → q.get keySonyIsoMode = p.get keySonyIsoMode
  shutter : e.shutter = none → q.get "sony-shutter-speed" = p.get "sony-shutter-speed"
  other : ∀ k, k ∉ [keySonyAeMode, "sony-shutter-speed", keySonyIsoMode] → q.get k = p.get k

/-- Without an ISO, the mode is `auto`, or stays `shutter-prio`. -/
theorem SetShutter.auto {shutter : Option ShutterSpeed} {q : CameraParameters}
    {mode : String} (hq : SetShutter ⟨none, shutter⟩ p q mode) :
    SetExposure ⟨none, shutter⟩ p
      (if mode = "shutter-prio" then q else q.set keySonyAeMode "auto") := by
  have hsonyIso := hq.other keySonyIsoMode (by decide) (by decide)
  cases shutter with
  | none =>
    rw [if_neg (by simp [hq.prio])]
    constructor
    · exact ⟨q.get_set_self _ _, fun _ h => (nomatch h), fun _ h => (nomatch h)⟩
    · exact fun _ => (q.get_set_of_ne _ (by decide)).trans hsonyIso
    · exact fun _ => (q.get_set_of_ne _ (by decide)).trans hq.shutter
    · intro k hk
      simp only [List.mem_cons, not_or] at hk
      exact (q.get_set_of_ne _ hk.1).trans (hq.other k hk.1 hk.2.1)
  | some s =>
    have hprio : mode = "shutter-prio" := hq.prio.mpr (Option.some_ne_none s)
    rw [if_pos hprio]
    constructor
    · refine ⟨?_, fun _ h => (nomatch h), fun s' h => ?_⟩
      · rw [hq.aeMode, hprio]
        rfl
      · cases h
        exact hq.shutter
    · exact fun _ => hsonyIso
    · exact fun h => (nomatch h)
    · intro k hk
      simp only [List.mem_cons, not_or] at hk
      exact hq.other k hk.1 hk.2.1

/-- With an ISO, the mode is `iso-prio`, or turns from `shutter-prio` to `manual`. -/
theorem SetShutter.iso {v : String} {shutter : Option ShutterSpeed} {q : CameraParameters}
    {mode : String} (hq : SetShutter ⟨some v, shutter⟩ p q mode) :
    SetExposure ⟨some v, shutter⟩ p ((q.set keySonyIsoMode v).set keySonyAeMode
      (if mode = "shutter-prio" then "manual" else "iso-prio")) := by
  have hset : ∀ (k m : String), k ≠ keySonyAeMode → k ≠ keySonyIsoMode →
      ((q.set keySonyIsoMode v).set keySonyAeMode m).get k = q.get k :=
    fun k m h h' => ((q.set _ v).get_set_of_ne m h).trans (q.get_set_of_ne v h')
  constructor
  · refine ⟨?_, fun v' h => ?_, fun s h => ?_⟩
    · rw [CameraParameters.get_set_self]
      cases shutter with
      | none => rw [if_neg (by simp [hq.prio])]; rfl
      | some s => rw [if_pos (hq.prio.mpr (Option.some_ne_none s))]; rfl
    · cases h
      exact ((q.set _ v).get_set_of_ne _ (by decide)).trans (q.get_set_self _ _)
    · have hs : shutter = some s := h
      subst hs
      exact (hset _ _ (by decide) (by decide)).trans hq.shutter
  · exact fun h => (nomatch h)
  · intro h
    have hs : shutter = none := h
    subst hs
    exact (hset _ _ (by decide) (by decide)).trans hq.shutter
  · intro k hk
    simp only [List.mem_cons, not_or] at hk
    exact (hset k _ hk.1 hk.2.2.1).trans (hq.other k hk.1 hk.2.1)

theorem setExposure {e : Exposure} (he : e.ShownToApplication p)
    (hauto : Contains (p.get keySonyAeModeValues) "auto")
    (hiso : Contains (p.get keySonyAeModeValues) "iso-prio") :
    ∃ q, ((setShutterSpeed p).value.bind fun q => (setIsoMode q).value) = some q ∧
      SetExposure e p q := by
  obtain ⟨q, mode, hvalue, hq⟩ := setShutterSpeed_spec he hauto
  have hvalues := hq.other keySonyAeModeValues (by decide) (by decide)
  have hread := (hq.other keyIsoMode (by decide) (by decide)).trans he.isoMode
  rw [hvalue, Option.bind_some]
  obtain ⟨iso, shutter⟩ := e
  cases iso with
  | none => exact ⟨_, setIsoMode_auto hread (hvalues ▸ hauto) hq.aeMode, hq.auto⟩
  | some v => exact ⟨_, setIsoMode_iso hread (hvalues ▸ hiso) hq.aeMode, hq.iso⟩

/-! ## What the parts of `camera_fixup_getparams` do -/

theorem getShutterSpeed_some {s : String} (h : p.get "sony-shutter-speed" = some s) :
    getShutterSpeed p = p.set "shutter-speed" s := by
  simp only [getShutterSpeed, h]

theorem getShutterSpeed_none (h : p.get "sony-shutter-speed" = none) : getShutterSpeed p = p := by
  simp only [getShutterSpeed, h]

theorem get_getShutterSpeed {k : String} (hk : k ≠ "shutter-speed") :
    (getShutterSpeed p).get k = p.get k := by
  unfold getShutterSpeed
  split
  · exact p.get_set_of_ne _ hk
  · rfl

/-- The `else if` chain over the mode. -/
theorem getAeMode_mode {mode iso : String} (hiso : p.get keySonyIsoMode = some iso)
    (hvalues : (p.get keySonyAeModeValues).isSome) (hmode : p.get keySonyAeMode = some mode) :
    (getAeMode p).value = some (
      if mode = "iso-prio" then (p.set keyIsoMode ("ISO" ++ iso)).set "shutter-speed" "auto"
      else if mode = "shutter-prio" then getShutterSpeed (p.set keyIsoMode "auto")
      else if mode = "manual" then (getShutterSpeed p).set keyIsoMode ("ISO" ++ iso)
      else (p.set keyIsoMode "auto").set "shutter-speed" "auto") := by
  have hspeed : (getShutterSpeed p).get keySonyIsoMode = some iso :=
    (get_getShutterSpeed (by decide)).trans hiso
  simp only [getAeMode, hiso, Option.isSome_some, hvalues, if_true, hmode, Fixup.value_bind,
    value_strcmp, Option.bind_some]
  by_cases hauto : mode = "auto"
  · subst hauto
    rfl
  · by_cases hprio : mode = "iso-prio"
    · simp [hprio, getIsoVal, hiso]
    · by_cases hshutter : mode = "shutter-prio"
      · simp [hshutter]
      · by_cases hmanual : mode = "manual" <;>
          simp [hauto, hprio, hshutter, hmanual, getIsoVal, hspeed]

/-- The chain writes the application's two settings only. -/
theorem getAeMode_other {mode iso : String} (hiso : p.get keySonyIsoMode = some iso)
    (hvalues : (p.get keySonyAeModeValues).isSome) (hmode : p.get keySonyAeMode = some mode)
    {q : CameraParameters} (hq : (getAeMode p).value = some q) {k : String}
    (hk : k ≠ keyIsoMode) (hk' : k ≠ "shutter-speed") : q.get k = p.get k := by
  have hset : ∀ v w : String, ((p.set keyIsoMode v).set "shutter-speed" w).get k = p.get k :=
    fun v w => ((p.set _ v).get_set_of_ne w hk').trans (p.get_set_of_ne v hk)
  rw [getAeMode_mode hiso hvalues hmode] at hq
  cases hq
  split
  · exact hset _ _
  · split
    · exact (get_getShutterSpeed hk').trans (p.get_set_of_ne _ hk)
    · split
      · exact ((getShutterSpeed p).get_set_of_ne _ hk).trans (get_getShutterSpeed hk')
      · exact hset _ _

/-- The chain shows the application the vendor's exposure. -/
theorem getExposure {e : Exposure} (he : e.ShownToVendor p)
    (hiso : (p.get keySonyIsoMode).isSome) (hvalues : (p.get keySonyAeModeValues).isSome) :
    ∃ q, (getAeMode p).value = some q ∧ e.ShownToApplication q := by
  obtain ⟨iso, hiso⟩ := Option.isSome_iff_exists.mp hiso
  refine ⟨_, getAeMode_mode hiso hvalues he.mode, ?_⟩
  obtain ⟨eiso, shutter⟩ := e
  cases eiso with
  | none =>
    cases shutter with
    | none =>
      refine ⟨?_, CameraParameters.get_set_self _ _ _⟩
      exact ((p.set _ _).get_set_of_ne _ (by decide)).trans (p.get_set_self _ _)
    | some s =>
      have hspeed : (p.set keyIsoMode "auto").get "sony-shutter-speed" = some s.val :=
        (p.get_set_of_ne _ (by decide)).trans (he.shutter s rfl)
      have hq : getShutterSpeed (p.set keyIsoMode "auto") =
        (p.set keyIsoMode "auto").set "shutter-speed" s.val := getShutterSpeed_some hspeed
      refine ⟨?_, ?_⟩
      · exact (get_getShutterSpeed (by decide)).trans (p.get_set_self _ _)
      · exact (congrArg (fun q => q.get "shutter-speed") hq).trans
          (CameraParameters.get_set_self _ _ _)
  | some v =>
    have hv : iso = v := Option.some.inj (hiso.symm.trans (he.iso v rfl))
    subst hv
    cases shutter with
    | none =>
      refine ⟨?_, CameraParameters.get_set_self _ _ _⟩
      exact ((p.set _ _).get_set_of_ne _ (by decide)).trans (p.get_set_self _ _)
    | some s =>
      refine ⟨CameraParameters.get_set_self _ _ _, ?_⟩
      have hq := getShutterSpeed_some (he.shutter s rfl)
      refine ((getShutterSpeed p).get_set_of_ne _ (by decide)).trans ?_
      rw [hq]
      exact p.get_set_self _ _

end

end Camera
end Huashan
