import Mathlib

/-!
# Huashan.Camera.Parameters

The parameter fix-ups of `CameraWrapper.cpp`. `cameraFixupSetparams` translates the application's
parameters to the vendor's, `cameraFixupGetparams` the vendor's to the application's.

`CameraParameters` is a map of strings, so flattening and reading back is left out. A
`const char *` is an `Option String`, `none` for `NULL`, and a character is one byte. A fix-up
leaves behind what it did with such pointers and with its buffers.
-/

namespace Huashan
namespace Camera

/-! ## Camera parameters -/

structure CameraParameters where
  get : String → Option String

namespace CameraParameters

def set (params : CameraParameters) (key value : String) : CameraParameters :=
  ⟨Function.update params.get key (some value)⟩

@[simp] theorem get_set_self (params : CameraParameters) (key value : String) :
    (params.set key value).get key = some value := by
  simp [set]

theorem get_set_of_ne (params : CameraParameters) {key key' : String} (value : String)
    (h : key' ≠ key) : (params.set key value).get key' = params.get key' := by
  simp [set, Function.update_of_ne h]

end CameraParameters

/-! ## Names and values of the source -/

abbrev keySupportedIsoModes : String := "iso-values"
abbrev keyIsoMode : String := "iso"
abbrev keySonyImageStabiliserValues : String := "sony-is-values"
abbrev keySonyImageStabiliser : String := "sony-is"
abbrev keySonyVideoStabiliser : String := "sony-vs"
abbrev keySonyVideoStabiliserValues : String := "sony-vs-values"
abbrev keySonyVideoHdr : String := "sony-video-hdr"
abbrev keySonyVideoHdrValues : String := "sony-video-hdr-values"
abbrev keySonyIsoAvailModes : String := "sony-iso-values"
abbrev keySonyIsoMode : String := "sony-iso"
abbrev keySonyAeModeValues : String := "sony-ae-mode-values"
abbrev keySonyAeMode : String := "sony-ae-mode"
abbrev valueSonyOn : String := "on"
abbrev valueSonyOff : String := "off"
abbrev valueSonyStillHdr : String := "on-still-hdr"
abbrev valueSonyIntelligentActive : String := "on-intelligent-active"

/-! The constants of `CameraParameters`. -/

abbrev keySupportedSceneModes : String := "scene-mode-values"
abbrev keySceneMode : String := "scene-mode"
abbrev keyPreferredPreviewSizeForVideo : String := "preferred-preview-size-for-video"
abbrev keyRecordingHint : String := "recording-hint"
abbrev sceneModeAuto : String := "auto"
abbrev valueTrue : String := "true"

/-! ## Strings -/

/-- What a fix-up does with its pointers and buffers. -/
inductive Access where
  /-- A pointer is given to a C string function. -/
  | read (value : Option String)
  /-- A pointer is moved forward. -/
  | skip (value : String) (n : Nat)
  /-- A text is written to a buffer. -/
  | write (text : String) (size : Nat)
  deriving DecidableEq, Repr

/-- The accesses of a computation, and its value unless it crashes. -/
structure Fixup (α : Type) where
  accesses : List Access
  value : Option α

namespace Fixup

instance : Monad Fixup where
  pure a := ⟨[], some a⟩
  bind x f :=
    match x.value with
    | none => ⟨x.accesses, none⟩
    | some a => ⟨x.accesses ++ (f a).accesses, (f a).value⟩

@[simp] theorem value_pure {α : Type} (a : α) : (pure a : Fixup α).value = some a := rfl

@[simp] theorem value_bind {α β : Type} (x : Fixup α) (f : α → Fixup β) :
    (x >>= f).value = x.value.bind fun a => (f a).value := by
  cases h : x.value <;> simp [bind, h]

end Fixup

/-- Whether `strcmp(s, t) == 0`. -/
def strcmp (s : Option String) (t : String) : Fixup Bool where
  accesses := [.read s]
  value := s.map fun s => decide (s = t)

/-- Whether `strstr(s, t) != NULL`. -/
def strstr (s : Option String) (t : String) : Fixup Bool where
  accesses := [.read s]
  value := s.map fun s => decide (t.toList <:+: s.toList)

def strlen (s : Option String) : Fixup Nat where
  accesses := [.read s]
  value := s.map String.length

/-- A format with one `%s`, written to a buffer. The C library prints `(null)` for `NULL`. -/
def sprintf (size : Nat) (before : String) (s : Option String) (after : String) :
    Fixup String :=
  let text := before ++ s.getD "(null)" ++ after
  ⟨[.read s, .write text size], some text⟩

/-- The pointer `s + n`. -/
def skip (s : String) (n : Nat) : Fixup String where
  accesses := [.skip s n]
  value := if n ≤ s.length then some (String.ofList (s.toList.drop n)) else none

@[simp] theorem value_strcmp (s t : String) :
    (strcmp (some s) t).value = some (decide (s = t)) := rfl

@[simp] theorem value_strstr (s t : String) :
    (strstr (some s) t).value = some (decide (t.toList <:+: s.toList)) := rfl

@[simp] theorem value_strlen (s : String) : (strlen (some s)).value = some s.length := rfl

@[simp] theorem value_sprintf (size : Nat) (before : String) (s : Option String)
    (after : String) :
    (sprintf size before s after).value = some (before ++ s.getD "(null)" ++ after) := rfl

theorem value_skip_append (p s : String) : (skip (p ++ s) p.length).value = some s := by
  have h : String.ofList ((p ++ s).toList.drop p.length) = s := by
    rw [String.toList_append, ← String.length_toList, List.drop_left, String.ofList_toList]
  have hle : p.length ≤ (p ++ s).length := by simp
  simp only [skip, if_pos hle, h]

/-! ## `camera_fixup_getparams` -/

def cameraFixupCapability (params : CameraParameters) : Fixup CameraParameters :=
  if (params.get keySonyImageStabiliserValues).isSome then do
    let supportedIsModes := params.get keySonyImageStabiliserValues
    if ← strstr supportedIsModes valueSonyStillHdr then
      let supportedSceneModes := params.get keySupportedSceneModes
      let buffer ← sprintf 512 "" supportedSceneModes ",hdr"
      return params.set keySupportedSceneModes buffer
    else return params
  else return params

/-- `buffer[pos] = c`. -/
def putChar (buffer : List Char) (pos : Nat) (c : Char) : List Char :=
  buffer.take pos ++ c :: buffer.drop (pos + 1)

/-- The loop over the vendor's ISO list, with `buffer` and `bufferPos`. -/
def isoModesLoop (isoModeList : List Char) : List Char × Nat :=
  isoModeList.foldl
    (fun (s : List Char × Nat) c =>
      if c ≠ ',' then (putChar s.1 s.2 c, s.2 + 1) else (s.1 ++ ",ISO".toList, s.2 + 4))
    ("ISO".toList, 3)

def getIsoModes (params : CameraParameters) : Fixup CameraParameters :=
  match params.get keySonyIsoAvailModes with
  | none => return params
  | some isoModeList => do
    let _ ← strlen (some isoModeList)
    let buffer := String.ofList (isoModesLoop isoModeList.toList).1 ++ ",auto"
    let buffer ← (⟨[.write buffer 255], some buffer⟩ : Fixup String)
    return params.set keySupportedIsoModes buffer

/-- Scene mode is HDR with the still HDR stabiliser. -/
def getSceneMode (params : CameraParameters) : Fixup CameraParameters :=
  match params.get keySonyImageStabiliser with
  | none => return params
  | some sonyIs => do
    if ← strcmp (some sonyIs) valueSonyStillHdr then
      return params.set keySceneMode "hdr"
    else return params

def getVideoHdr (params : CameraParameters) : CameraParameters :=
  match params.get keySonyVideoHdr, params.get keySonyVideoHdrValues with
  | some videoHdr, some videoHdrValues =>
    (params.set "video-hdr-values" videoHdrValues).set "video-hdr" videoHdr
  | _, _ => params

/-- The `ISO` value of the vendor's `sony-iso`. -/
def getIsoVal (params : CameraParameters) : Fixup String := do
  let n ← strlen (params.get keySonyIsoMode)
  sprintf (3 + n) "ISO" (params.get keySonyIsoMode) ""

/-- `shutter-speed` from `sony-shutter-speed`, when there is one. -/
def getShutterSpeed (params : CameraParameters) : CameraParameters :=
  match params.get "sony-shutter-speed" with
  | some shutterSpeed => params.set "shutter-speed" shutterSpeed
  | none => params

def getAeMode (params : CameraParameters) : Fixup CameraParameters :=
  if (params.get keySonyIsoMode).isSome then
    if (params.get keySonyAeModeValues).isSome then do
      let aeMode := params.get keySonyAeMode
      if ← strcmp aeMode "auto" then
        return (params.set keyIsoMode "auto").set "shutter-speed" "auto"
      else if ← strcmp aeMode "iso-prio" then
        let isoVal ← getIsoVal params
        return (params.set keyIsoMode isoVal).set "shutter-speed" "auto"
      else if ← strcmp aeMode "shutter-prio" then
        return getShutterSpeed (params.set keyIsoMode "auto")
      else if ← strcmp aeMode "manual" then
        let params := getShutterSpeed params
        let isoVal ← getIsoVal params
        return params.set keyIsoMode isoVal
      else return (params.set keyIsoMode "auto").set "shutter-speed" "auto"
    else return params
  else return params

def cameraFixupGetparams (id : Int) (settings : CameraParameters) : Fixup CameraParameters := do
  let params ← cameraFixupCapability settings
  let params := params.set keyPreferredPreviewSizeForVideo
    (if id = 0 then "1280x720" else "640x480")
  let params ← getIsoModes params
  let params ← getSceneMode params
  getAeMode (getVideoHdr params)

/-! ## `camera_fixup_setparams` -/

def setShutterSpeed (params : CameraParameters) : Fixup CameraParameters :=
  match params.get "shutter-speed" with
  | none => return params
  | some shutterSpeed => do
    if ← strcmp (some shutterSpeed) "auto" then
      let aeModes := params.get keySonyAeModeValues
      if ← strstr aeModes "auto" then
        return params.set keySonyAeMode "auto"
      else return params
    else return (params.set "sony-shutter-speed" shutterSpeed).set keySonyAeMode "shutter-prio"

/-- `sony-iso` is the ISO mode without its first three characters. -/
def setSonyIso (params : CameraParameters) (isoMode : String) : Fixup CameraParameters := do
  if ← strcmp (some isoMode) "auto" then return params
  else return params.set keySonyIsoMode (← skip isoMode 3)

def setAeMode (params : CameraParameters) (isoMode : String) : Fixup CameraParameters :=
  if (params.get keySonyAeModeValues).isSome then do
    let aeModes := params.get keySonyAeModeValues
    if ← strcmp (some isoMode) "auto" then
      if ← strstr aeModes "auto" then
        if ← strcmp (params.get keySonyAeMode) "shutter-prio" then return params
        else return params.set keySonyAeMode "auto"
      else return params
    else if ← strstr aeModes "iso-prio" then
      if ← strcmp (params.get keySonyAeMode) "shutter-prio" then
        return params.set keySonyAeMode "manual"
      else return params.set keySonyAeMode "iso-prio"
    else return params
  else return params

def setIsoMode (params : CameraParameters) : Fixup CameraParameters :=
  match params.get keyIsoMode with
  | none => return params
  | some isoMode => do
    let params ← setSonyIso params isoMode
    setAeMode params isoMode

def setSceneMode (params : CameraParameters) : Fixup CameraParameters :=
  match params.get keySceneMode with
  | none => return params
  | some sceneMode => do
    if ← strcmp (some sceneMode) "hdr" then
      return (params.set keySonyImageStabiliser valueSonyStillHdr).set keySceneMode sceneModeAuto
    else return params.set keySonyImageStabiliser valueSonyOn

def setVideoHdr (params : CameraParameters) : CameraParameters :=
  match params.get keySonyVideoHdr, params.get "video-hdr" with
  | some _, some videoHdr => params.set keySonyVideoHdr videoHdr
  | _, _ => params

/-- The stabilisers of a recording. -/
def setStabilisers (params : CameraParameters) : Fixup CameraParameters :=
  match params.get keyRecordingHint with
  | none => return params
  | some recordingHint => do
    if ← strcmp (some recordingHint) valueTrue then
      let intelligentActive ← match params.get keySonyVideoStabiliserValues with
        | none => pure false
        | some values => strstr (some values) valueSonyIntelligentActive
      let params := params.set keySonyVideoStabiliser
        (if intelligentActive then valueSonyIntelligentActive else valueSonyOff)
      return params.set keySonyImageStabiliser valueSonyOff
    else return params

def cameraFixupSetparams (_id : Int) (settings : CameraParameters) : Fixup CameraParameters := do
  let params ← setShutterSpeed settings
  let params ← setIsoMode params
  let params ← setSceneMode params
  setStabilisers (setVideoHdr params)

end Camera
end Huashan
