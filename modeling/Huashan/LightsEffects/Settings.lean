import Huashan.LightsEffects.Service

/-!
# Huashan.LightsEffects.Settings

What the service does when it applies the preferences, as one equation (`applySettings_eq`), and
that the fields agree with the preferences after every event (`Settled.step`).
-/

namespace Huashan
namespace LightsEffects

/-! ## Registering callbacks -/

namespace MediaSessions

variable {κ : Type} [DecidableEq κ]

theorem foldl_registerCallback (s : MediaSessions κ) (callback : Nat) (controllers : List κ) :
    controllers.foldl (fun s controller => s.registerCallback callback controller) s =
      { s with registrations := s.registrations ∪
        (controllers.map fun controller => (controller, callback)).toFinset } := by
  induction controllers generalizing s with
  | nil => simp
  | cons controller controllers ih =>
    rw [List.foldl_cons, ih, List.map_cons, List.toFinset_cons]
    simp only [registerCallback, Finset.insert_union, Finset.union_insert]

theorem foldl_unregisterCallback (s : MediaSessions κ) (callback : Nat) (controllers : List κ) :
    controllers.foldl (fun s controller => s.unregisterCallback callback controller) s =
      { s with registrations := s.registrations \
        (controllers.map fun controller => (controller, callback)).toFinset } := by
  induction controllers generalizing s with
  | nil => simp
  | cons controller controllers ih =>
    rw [List.foldl_cons, ih, List.map_cons, List.toFinset_cons]
    simp only [unregisterCallback, Finset.sdiff_insert, Finset.erase_sdiff_comm]

/-- The callback that `registerSessionCallbacks` registers: the one there is, or a new one. -/
def callback (s : MediaSessions κ) : Nat := s.mMediaSessionCallback.getD s.nextCallback

theorem registerSessionCallbacks_eq (s : MediaSessions κ) :
    s.registerSessionCallbacks = { s with
      mMediaSessionCallback := some s.callback
      nextCallback := if s.mMediaSessionCallback.isNone then s.nextCallback + 1 else s.nextCallback
      registrations := s.registrations ∪
        (s.mMediaActiveSessions.map fun controller => (controller, s.callback)).toFinset } := by
  obtain ⟨_, _, mMediaSessionCallback, _, _, _, _⟩ := s
  cases mMediaSessionCallback with
  | none => exact foldl_registerCallback _ _ _
  | some callback => exact foldl_registerCallback _ _ _

theorem unregisterSessionCallbacks_eq {s : MediaSessions κ} {callback : Nat}
    (h : s.mMediaSessionCallback = some callback) :
    s.unregisterSessionCallbacks = { s with
      mMediaSessionCallback := none
      registrations := s.registrations \
        (s.mMediaActiveSessions.map fun controller => (controller, callback)).toFinset } := by
  unfold unregisterSessionCallbacks
  rw [h]
  simp only []
  rw [foldl_unregisterCallback]

theorem onActiveSessionsChanged_mSessionMusicRegistered (s : MediaSessions κ)
    (controllers : List κ) :
    (s.onActiveSessionsChanged controllers).mSessionMusicRegistered =
      s.mSessionMusicRegistered := by
  rw [onActiveSessionsChanged, registerSessionCallbacks_eq]

theorem setSessionMusic_mSessionMusicRegistered (s : MediaSessions κ) (enable : Bool)
    (sessions : List κ) : (s.setSessionMusic enable sessions).mSessionMusicRegistered = enable := by
  unfold setSessionMusic
  split
  · next h => exact h.symm
  · split <;> rfl

end MediaSessions

namespace State

variable {κ : Type}

/-! ## Applying the settings -/

/-- The receiver and the session callbacks are registered as the settings ask for. -/
structure Consistent (s : State κ) : Prop where
  screen : s.mIntentScreenRegistered = (s.mLightsEffectsMusicEnable && s.mLightsEffectsMusicAwake)
  session : s.media.mSessionMusicRegistered = s.mLightsEffectsMusicEnable

theorem Consistent.of_preferences {s : State κ} (hs : s.Consistent) (preferences : Preferences) :
    ({ s with preferences := preferences } : State κ).Consistent := ⟨hs.screen, hs.session⟩

/-- The settings are those of the preferences. -/
structure Settled (s : State κ) : Prop extends s.Consistent where
  enable : s.mLightsEffectsMusicEnable = decide (s.preferences.lightsEffectsMusicEnable ≠ 0)
  awake : s.mLightsEffectsMusicAwake = decide (s.preferences.lightsEffectsMusicAwake ≠ 0)
  always : s.mLightsEffectsMusicAlways = decide (s.preferences.lightsEffectsMusicAlways ≠ 0)

/-- What `Settled` looks at. -/
def settings (s : State κ) : Preferences × Bool × Bool × Bool × Bool × Bool :=
  (s.preferences, s.mLightsEffectsMusicEnable, s.mLightsEffectsMusicAwake,
    s.mLightsEffectsMusicAlways, s.mIntentScreenRegistered, s.media.mSessionMusicRegistered)

theorem Settled.of_settings {s t : State κ} (hs : s.Settled) (h : t.settings = s.settings) :
    t.Settled := by
  simp only [settings, Prod.mk.injEq] at h
  obtain ⟨hp, he, hw, ha, hr, hm⟩ := h
  exact ⟨⟨by rw [hr, he, hw, hs.screen], by rw [hm, he, hs.session]⟩, by rw [he, hp, hs.enable],
    by rw [hw, hp, hs.awake], by rw [ha, hp, hs.always]⟩

/-! ## What the handlers change -/

theorem onReceive_eq (s : State κ) (screenOn : Bool) :
    s.onReceive screenOn = if s.mDisplayState = screenOn then s
      else { s with mDisplayState := screenOn }.updateLightsEffectsValue := by
  unfold onReceive
  cases screenOn <;> cases hd : s.mDisplayState <;> simp

/-- A switch of the screen changes the screen state and the value, at most. -/
theorem switchScreen_eq (s : State κ) (screenOn : Bool) : ∃ display value,
    s.switchScreen screenOn = { s with
      screenOn := screenOn, mDisplayState := display, lightsEffectsValue := value } := by
  unfold switchScreen
  simp only []
  split
  · rw [onReceive_eq]
    split <;> exact ⟨_, _, rfl⟩
  · exact ⟨_, _, rfl⟩

theorem onPlaybackStateChanged_eq (s : State κ) (state : Option PlaybackState) :
    ∃ playing value, s.onPlaybackStateChanged state = { s with
      mAudioMusicPlaying := playing, lightsEffectsValue := value } := by
  cases state <;> exact ⟨_, _, rfl⟩

theorem onMetadataChanged_eq (s : State κ) (hsvToColor : Int → BitVec 32)
    (metadata : Option MediaMetadata) : ∃ color task value,
      s.onMetadataChanged hsvToColor metadata = { s with
        mLightsEffectsMusicColor := color, mPaletteTask := task, lightsEffectsValue := value } := by
  unfold onMetadataChanged
  split
  · exact ⟨_, _, _, rfl⟩
  · simp only []
    split <;> exact ⟨_, _, _, rfl⟩

theorem setIntentScreen_eq (s : State κ) (enable : Bool) :
    s.setIntentScreen enable = { s with mIntentScreenRegistered := enable } := by
  unfold setIntentScreen
  split
  · next h => rw [h]
  · rfl

variable [DecidableEq κ] {hsvToColor : Int → BitVec 32}

/-- `applySettings` without the value of the property. -/
def settled (s : State κ) (sessions : List κ) : State κ :=
  let enable := decide (s.preferences.lightsEffectsMusicEnable ≠ 0)
  let awake := decide (s.preferences.lightsEffectsMusicAwake ≠ 0)
  { s with
    mLightsEffectsMusicEnable := enable
    mLightsEffectsMusicAwake := awake
    mLightsEffectsMusicAlways := decide (s.preferences.lightsEffectsMusicAlways ≠ 0)
    mLightsEffectsMusicGain := s.preferences.lightsEffectsMusicGain
    lightsEffectsGain :=
      if s.mLightsEffectsMusicGain ≠ s.preferences.lightsEffectsMusicGain then
        toString s.preferences.lightsEffectsMusicGain
      else s.lightsEffectsGain
    mIntentScreenRegistered := enable && awake
    media := s.media.setSessionMusic enable sessions }

/-- The preferences ask for other settings. -/
def Unsettled (s : State κ) : Prop :=
  s.mLightsEffectsMusicEnable ≠ decide (s.preferences.lightsEffectsMusicEnable ≠ 0) ∨
    s.mLightsEffectsMusicAwake ≠ decide (s.preferences.lightsEffectsMusicAwake ≠ 0) ∨
    s.mLightsEffectsMusicAlways ≠ decide (s.preferences.lightsEffectsMusicAlways ≠ 0)

instance (s : State κ) : Decidable s.Unsettled := by
  unfold Unsettled
  infer_instance

theorem applySettings_eq {s : State κ} (hs : s.Consistent) (sessions : List κ) :
    s.applySettings sessions =
      if s.Unsettled then (s.settled sessions).updateLightsEffectsValue
      else s.settled sessions := by
  have hgain : ∀ t : State κ, t = (if s.mLightsEffectsMusicGain ≠
      s.preferences.lightsEffectsMusicGain then
      ({ s with mLightsEffectsMusicGain := s.preferences.lightsEffectsMusicGain } :
        State κ).updateLightsEffectsGain else s) →
      t = { s with
        mLightsEffectsMusicGain := s.preferences.lightsEffectsMusicGain
        lightsEffectsGain :=
          if s.mLightsEffectsMusicGain ≠ s.preferences.lightsEffectsMusicGain then
            toString s.preferences.lightsEffectsMusicGain
          else s.lightsEffectsGain } := by
    intro t ht
    split at ht
    · next h => rw [if_pos h]; exact ht
    · next h => rw [if_neg h, ← not_not.mp h]; exact ht
  unfold applySettings
  simp only []
  rw [hgain _ rfl, setIntentScreen_eq]
  by_cases h : s.Unsettled
  · rw [if_pos h, if_pos (by exact h)]
    rfl
  · rw [if_neg h, if_neg (by exact h)]
    obtain ⟨he, h⟩ := not_or.mp h
    obtain ⟨hw, ha⟩ := not_or.mp h
    have hmedia : s.media.setSessionMusic s.mLightsEffectsMusicEnable sessions = s.media :=
      if_pos hs.session.symm
    simp only [settled, ← not_not.mp he, ← not_not.mp hw, ← not_not.mp ha, hmedia, ← hs.screen]

theorem settled_settled (s : State κ) (sessions : List κ) : (s.settled sessions).Settled where
  screen := rfl
  session := MediaSessions.setSessionMusic_mSessionMusicRegistered _ _ sessions
  enable := rfl
  awake := rfl
  always := rfl

/-! ## Settled states -/

theorem settled_applySettings {s : State κ} (hs : s.Consistent) (sessions : List κ) :
    (s.applySettings sessions).Settled := by
  rw [applySettings_eq hs]
  split
  · exact (settled_settled s sessions).of_settings rfl
  · exact settled_settled s sessions

/-- After every event, the fields agree with the preferences. -/
theorem Settled.step {s s' : State κ} (hs : s.Settled) {ev : Event κ}
    (h : s.step hsvToColor ev = some s') : s'.Settled := by
  cases ev with
  | screenOn =>
    cases h
    obtain ⟨_, _, hswitch⟩ := s.switchScreen_eq true
    have hsettings := congrArg settings hswitch
    exact hs.of_settings hsettings
  | screenOff =>
    cases h
    obtain ⟨_, _, hswitch⟩ := s.switchScreen_eq false
    have hsettings := congrArg settings hswitch
    exact hs.of_settings hsettings
  | preferencesChanged preferences sessions =>
    cases h
    exact settled_applySettings (hs.of_preferences preferences) sessions
  | activeSessionsChanged controllers =>
    cases h
    refine hs.of_settings ?_
    have hmedia : (if s.media.mMediaSessionsListener then
        { s.media with activeSessions := controllers }.onActiveSessionsChanged controllers
        else { s.media with activeSessions := controllers }).mSessionMusicRegistered =
        s.media.mSessionMusicRegistered := by
      split
      · exact MediaSessions.onActiveSessionsChanged_mSessionMusicRegistered _ controllers
      · rfl
    exact congrArg (fun registered => (s.preferences, s.mLightsEffectsMusicEnable,
      s.mLightsEffectsMusicAwake, s.mLightsEffectsMusicAlways, s.mIntentScreenRegistered,
      registered)) hmedia
  | playbackStateChanged controller callback state =>
    obtain ⟨_, h⟩ := Option.ite_none_right_eq_some.mp h
    cases h
    obtain ⟨_, _, hplayback⟩ := s.onPlaybackStateChanged_eq state
    have hsettings := congrArg settings hplayback
    exact hs.of_settings hsettings
  | metadataChanged controller callback metadata =>
    obtain ⟨_, h⟩ := Option.ite_none_right_eq_some.mp h
    cases h
    obtain ⟨_, _, _, hmetadata⟩ := s.onMetadataChanged_eq hsvToColor metadata
    have hsettings := congrArg settings hmetadata
    exact hs.of_settings hsettings
  | paletteGenerated vibrant lightVibrant darkVibrant =>
    obtain ⟨_, h⟩ := Option.ite_none_right_eq_some.mp h
    cases h
    exact hs.of_settings rfl

/-- The state in which the runs start: a service is started while the screen is on. -/
def start (preferences : Preferences) (lightsEffectsGain lightsEffectsValue : String)
    (sessions : List κ) : State κ :=
  (new preferences lightsEffectsGain lightsEffectsValue).onStartCommand sessions

theorem settled_start (preferences : Preferences) (lightsEffectsGain lightsEffectsValue : String)
    (sessions : List κ) :
    (start preferences lightsEffectsGain lightsEffectsValue sessions).Settled :=
  settled_applySettings ⟨rfl, rfl⟩ sessions

end State
end LightsEffects
end Huashan
