import Huashan.Hex
import Huashan.Run

/-!
# Huashan.LightsEffects.Service

`LightsEffectsService.java`: the colour of the music that plays, as a system property. `κ` are the
media controllers. The callbacks that the service creates are numbered; a controller keeps a set
of them, to which `registerCallback` adds and from which `unregisterCallback` removes.
-/

namespace Huashan
namespace LightsEffects

/-! ## Media sessions -/

structure MediaSessions (κ : Type) where
  mSessionMusicRegistered : Bool
  mMediaActiveSessions : List κ
  mMediaSessionCallback : Option Nat
  /-- There is an `mMediaSessionsListener`, and it is registered. -/
  mMediaSessionsListener : Bool
  registrations : Finset (κ × Nat)
  nextCallback : Nat
  /-- The active sessions that the system has told of last. -/
  activeSessions : List κ

namespace MediaSessions

variable {κ : Type} [DecidableEq κ] (s : MediaSessions κ)

def registerCallback (callback : Nat) (controller : κ) : MediaSessions κ :=
  { s with registrations := insert (controller, callback) s.registrations }

def unregisterCallback (callback : Nat) (controller : κ) : MediaSessions κ :=
  { s with registrations := s.registrations.erase (controller, callback) }

def registerSessionCallbacks : MediaSessions κ :=
  match s.mMediaSessionCallback with
  | none =>
    let callback := s.nextCallback
    s.mMediaActiveSessions.foldl (fun s controller => s.registerCallback callback controller)
      { s with mMediaSessionCallback := some callback, nextCallback := callback + 1 }
  | some callback =>
    s.mMediaActiveSessions.foldl (fun s controller => s.registerCallback callback controller) s

def unregisterSessionCallbacks : MediaSessions κ :=
  match s.mMediaSessionCallback with
  | none => s
  | some callback =>
    { s.mMediaActiveSessions.foldl (fun s controller => s.unregisterCallback callback controller) s
      with mMediaSessionCallback := none }

/-- The listener's `onActiveSessionsChanged`. -/
def onActiveSessionsChanged (controllers : List κ) : MediaSessions κ :=
  { s with mMediaActiveSessions := controllers }.registerSessionCallbacks

/-- `setSessionMusic`, with what `getActiveSessions` returns if it is called. -/
def setSessionMusic (enable : Bool) (sessions : List κ) : MediaSessions κ :=
  if enable = s.mSessionMusicRegistered then s
  else if enable then
    let s := { s with
      mMediaSessionsListener := true
      mMediaActiveSessions := sessions
      activeSessions := sessions }
    { s.registerSessionCallbacks with mSessionMusicRegistered := enable }
  else
    let s := { s with mMediaSessionsListener := false }
    { s.unregisterSessionCallbacks with
      mMediaActiveSessions := []
      mSessionMusicRegistered := enable }

end MediaSessions

/-! ## Colours -/

/-- The `int` of a `PlaybackState`; `other` has no name. -/
inductive PlaybackState where
  | stateNone
  | stateStopped
  | statePaused
  | statePlaying
  | stateFastForwarding
  | stateRewinding
  | stateBuffering
  | stateError
  | stateConnecting
  | stateSkippingToPrevious
  | stateSkippingToNext
  | stateSkippingToQueueItem
  | other (state : Int32)
  deriving DecidableEq, Repr

def isPlaybackActive (state : PlaybackState) : Bool :=
  state ≠ .stateError ∧ state ≠ .stateNone ∧ state ≠ .statePaused ∧ state ≠ .stateStopped

/-- What `onMetadataChanged` reads: whether there is an artwork, and the title as UTF-16. -/
structure MediaMetadata where
  art : Bool
  albumArt : Bool
  title : Option (List UInt16)
  deriving DecidableEq, Repr

/-- `Color.WHITE`. -/
def white : BitVec 32 := 0xFFFFFFFF#32

/-- `String.hashCode`. -/
def hashCode (title : List UInt16) : BitVec 32 :=
  title.foldl (fun hash c => 31#32 * hash + c.toBitVec.setWidth 32) 0#32

/-- `hsvToColor` is `Color.HSVToColor` of a hue, with full saturation and brightness. -/
def getMusicColorFromMetadata (hsvToColor : Int → BitVec 32) (metadata : MediaMetadata) :
    BitVec 32 :=
  match metadata.title with
  | none => white
  | some title => hsvToColor ((hashCode title).srem 360#32).toInt

/-- The colour that `onGenerated` takes from a palette. -/
def paletteColor (vibrant lightVibrant darkVibrant : BitVec 32) : BitVec 32 :=
  if vibrant = white then
    if lightVibrant = white then darkVibrant else lightVibrant
  else vibrant

def colorString (color : BitVec 32) : String := "0x" ++ formatHex 6 (0xFFFFFF#32 &&& color).toNat

/-! ## The service -/

/-- The preferences as `SettingsUtils.getInt` returns them. -/
structure Preferences where
  lightsEffectsMusicEnable : Int
  lightsEffectsMusicAwake : Int
  lightsEffectsMusicAlways : Int
  lightsEffectsMusicGain : Int
  deriving DecidableEq, Repr

structure State (κ : Type) where
  mLightsEffectsMusicColor : BitVec 32
  mLightsEffectsMusicAlways : Bool
  mLightsEffectsMusicAwake : Bool
  mLightsEffectsMusicEnable : Bool
  mLightsEffectsMusicGain : Int
  mAudioMusicPlaying : Bool
  mDisplayState : Bool
  mIntentScreenRegistered : Bool
  /-- There is an `mPaletteTask`. -/
  mPaletteTask : Bool
  media : MediaSessions κ
  preferences : Preferences
  /-- The screen is really on. -/
  screenOn : Bool
  /-- `sys.lights_effects_gain`. -/
  lightsEffectsGain : String
  /-- `sys.lights_effects_value`. -/
  lightsEffectsValue : String
  /-- Whether the playback state that a controller has reported last is active. -/
  lastReport : κ → Option Bool

namespace State

variable {κ : Type} [DecidableEq κ] (s : State κ)

def updateLightsEffectsGain : State κ :=
  { s with lightsEffectsGain := toString s.mLightsEffectsMusicGain }

/-- The value of the property, if the screen is on or off. -/
def valueFor (display : Bool) : String :=
  if s.mLightsEffectsMusicEnable && (s.mAudioMusicPlaying || s.mLightsEffectsMusicAlways) &&
      (!s.mLightsEffectsMusicAwake || display) then
    colorString s.mLightsEffectsMusicColor
  else "0"

def updateLightsEffectsValue : State κ :=
  { s with lightsEffectsValue := s.valueFor s.mDisplayState }

def setIntentScreen (enable : Bool) : State κ :=
  if enable = s.mIntentScreenRegistered then s else { s with mIntentScreenRegistered := enable }

def setSessionMusic (enable : Bool) (sessions : List κ) : State κ :=
  { s with media := s.media.setSessionMusic enable sessions }

def applySettings (sessions : List κ) : State κ :=
  let lightsEffectsMusicEnable := decide (s.preferences.lightsEffectsMusicEnable ≠ 0)
  let lightsEffectsMusicAwake := decide (s.preferences.lightsEffectsMusicAwake ≠ 0)
  let lightsEffectsMusicAlways := decide (s.preferences.lightsEffectsMusicAlways ≠ 0)
  let lightsEffectsMusicGain := s.preferences.lightsEffectsMusicGain
  let s := if s.mLightsEffectsMusicGain ≠ lightsEffectsMusicGain then
      { s with mLightsEffectsMusicGain := lightsEffectsMusicGain }.updateLightsEffectsGain
    else s
  if s.mLightsEffectsMusicEnable ≠ lightsEffectsMusicEnable ∨
      s.mLightsEffectsMusicAwake ≠ lightsEffectsMusicAwake ∨
      s.mLightsEffectsMusicAlways ≠ lightsEffectsMusicAlways then
    let s := { s with
      mLightsEffectsMusicEnable := lightsEffectsMusicEnable
      mLightsEffectsMusicAwake := lightsEffectsMusicAwake
      mLightsEffectsMusicAlways := lightsEffectsMusicAlways }
    let s := s.setIntentScreen (lightsEffectsMusicEnable && lightsEffectsMusicAwake)
    let s := s.setSessionMusic lightsEffectsMusicEnable sessions
    s.updateLightsEffectsValue
  else s

/-- `mScreenStateReceiver.onReceive`. -/
def onReceive (screenOn : Bool) : State κ :=
  if screenOn then
    if !s.mDisplayState then { s with mDisplayState := true }.updateLightsEffectsValue else s
  else if s.mDisplayState then { s with mDisplayState := false }.updateLightsEffectsValue
  else s

def onPlaybackStateChanged (state : Option PlaybackState) : State κ :=
  match state with
  | none => s
  | some state => { s with mAudioMusicPlaying := isPlaybackActive state }.updateLightsEffectsValue

def onMetadataChanged (hsvToColor : Int → BitVec 32) (metadata : Option MediaMetadata) : State κ :=
  match metadata with
  | none => s
  | some metadata =>
    -- a running palette task is cancelled
    let s := { s with mPaletteTask := false }
    if metadata.art || metadata.albumArt then { s with mPaletteTask := true }
    else
      { s with mLightsEffectsMusicColor := getMusicColorFromMetadata hsvToColor metadata
        }.updateLightsEffectsValue

/-- `mPaletteListener.onGenerated`. -/
def onGenerated (vibrant lightVibrant darkVibrant : BitVec 32) : State κ :=
  let s := { s with mLightsEffectsMusicColor := paletteColor vibrant lightVibrant darkVibrant }
  { s.updateLightsEffectsValue with mPaletteTask := false }

/-- The fields of a new service, in a system with these preferences and properties. -/
def new (preferences : Preferences) (lightsEffectsGain lightsEffectsValue : String) : State κ where
  mLightsEffectsMusicColor := 0xFFFFFF#32
  mLightsEffectsMusicAlways := false
  mLightsEffectsMusicAwake := false
  mLightsEffectsMusicEnable := false
  mLightsEffectsMusicGain := -1
  mAudioMusicPlaying := false
  mDisplayState := false
  mIntentScreenRegistered := false
  mPaletteTask := false
  media := ⟨false, [], none, false, ∅, 0, []⟩
  preferences := preferences
  screenOn := true
  lightsEffectsGain := lightsEffectsGain
  lightsEffectsValue := lightsEffectsValue
  lastReport := fun _ => none

def onStartCommand (sessions : List κ) : State κ :=
  { s with mAudioMusicPlaying := false, mDisplayState := true }.applySettings sessions

end State

/-! ## Events -/

inductive Event (κ : Type) where
  | screenOn
  | screenOff
  /-- Preferences change; if that enables the effect, `sessions` are active. -/
  | preferencesChanged (preferences : Preferences) (sessions : List κ)
  | activeSessionsChanged (controllers : List κ)
  /-- A controller calls one of the callbacks that are registered on it. -/
  | playbackStateChanged (controller : κ) (callback : Nat) (state : Option PlaybackState)
  | metadataChanged (controller : κ) (callback : Nat) (metadata : Option MediaMetadata)
  | paletteGenerated (vibrant lightVibrant darkVibrant : BitVec 32)

namespace State

variable {κ : Type} [DecidableEq κ]

/-- The screen is switched, and the receiver is told if it is registered. -/
def switchScreen (s : State κ) (screenOn : Bool) : State κ :=
  let s := { s with screenOn := screenOn }
  if s.mIntentScreenRegistered then s.onReceive screenOn else s

def step (hsvToColor : Int → BitVec 32) (s : State κ) : Event κ → Option (State κ)
  | .screenOn => some (s.switchScreen true)
  | .screenOff => some (s.switchScreen false)
  | .preferencesChanged preferences sessions =>
    some ({ s with preferences := preferences }.applySettings sessions)
  | .activeSessionsChanged controllers =>
    let media := { s.media with activeSessions := controllers }
    some { s with media := if media.mMediaSessionsListener then
      media.onActiveSessionsChanged controllers else media }
  | .playbackStateChanged controller callback state =>
    if (controller, callback) ∈ s.media.registrations then
      some { s.onPlaybackStateChanged state with
        lastReport := match state with
          | none => s.lastReport
          | some state => Function.update s.lastReport controller (some (isPlaybackActive state)) }
    else none
  | .metadataChanged controller callback metadata =>
    if (controller, callback) ∈ s.media.registrations then
      some (s.onMetadataChanged hsvToColor metadata)
    else none
  | .paletteGenerated vibrant lightVibrant darkVibrant =>
    if s.mPaletteTask then some (s.onGenerated vibrant lightVibrant darkVibrant) else none

end State
end LightsEffects
end Huashan
