import Huashan.LightsEffects.Settings

/-!
# Huashan.LightsEffects.Sessions

Where the callbacks of the service are registered. The media sessions are a part of the state with
steps of its own (`MediaSessions.next`).

`onActiveSessions_iff`: the callbacks are registered on exactly the active sessions while the
effect is enabled, and nowhere while it is not, exactly when no change of the sessions drops one.
-/

namespace Huashan
namespace LightsEffects
namespace MediaSessions

variable {κ : Type} [DecidableEq κ]

/-- What an event does to the media sessions. -/
def next (s : MediaSessions κ) : Event κ → MediaSessions κ
  | .preferencesChanged preferences sessions =>
    s.setSessionMusic (decide (preferences.lightsEffectsMusicEnable ≠ 0)) sessions
  | .activeSessionsChanged controllers =>
    if s.mMediaSessionsListener then
      { s with activeSessions := controllers }.onActiveSessionsChanged controllers
    else { s with activeSessions := controllers }
  | _ => s

/-- One callback, registered on the sessions of the list, or none. -/
structure Exact (s : MediaSessions κ) : Prop where
  enabled : s.mSessionMusicRegistered = true →
    s.mMediaSessionsListener = true ∧ s.activeSessions = s.mMediaActiveSessions ∧
      ∃ callback, s.mMediaSessionCallback = some callback ∧ s.registrations =
        (s.mMediaActiveSessions.map fun controller => (controller, callback)).toFinset
  disabled : s.mSessionMusicRegistered = false →
    s.mMediaSessionsListener = false ∧ s.mMediaSessionCallback = none ∧ s.registrations = ∅

theorem Exact.setSessionMusic {s : MediaSessions κ} (hs : s.Exact) (enable : Bool)
    (sessions : List κ) : (s.setSessionMusic enable sessions).Exact := by
  unfold MediaSessions.setSessionMusic
  split
  · exact hs
  · next hchange =>
    cases enable with
    | true =>
      obtain ⟨_, hcallback, hnone⟩ := hs.disabled (by simpa using hchange)
      simp only [if_true, registerSessionCallbacks_eq]
      refine ⟨fun _ => ⟨rfl, rfl, _, rfl, ?_⟩, nofun⟩
      simp only [hnone, Finset.empty_union]
    | false =>
      obtain ⟨_, _, callback, hcallback, hall⟩ := hs.enabled (by simpa using hchange)
      have hunregister := unregisterSessionCallbacks_eq (s := { s with
        mMediaSessionsListener := false }) hcallback
      simp only [Bool.false_eq_true, if_false, hunregister]
      refine ⟨nofun, fun _ => ⟨rfl, rfl, ?_⟩⟩
      simp only [hall, Finset.sdiff_self]

/-- The controllers that a callback is registered on. -/
theorem image_fst_map (controllers : List κ) (callback : Nat) :
    ((controllers.map fun controller => (controller, callback)).toFinset).image Prod.fst =
      controllers.toFinset := by
  ext controller
  simp

/-- The callbacks are registered on exactly the active sessions, if they should be. -/
def OnActiveSessions (s : MediaSessions κ) (enable : Bool) : Prop :=
  if enable then s.registrations.image Prod.fst = s.activeSessions.toFinset
  else s.registrations = ∅

theorem Exact.onActiveSessions {s : MediaSessions κ} (hs : s.Exact) :
    s.OnActiveSessions s.mSessionMusicRegistered := by
  unfold OnActiveSessions
  split
  · next h =>
    obtain ⟨_, hactive, callback, _, hall⟩ := hs.enabled h
    rw [hall, hactive, image_fst_map]
  · next h => exact (hs.disabled (Bool.eq_false_of_not_eq_true h)).2.2

/-- A change of the sessions leaves the callbacks on the sessions that it drops. -/
theorem Exact.changed {s : MediaSessions κ} (hs : s.Exact)
    (hregistered : s.mSessionMusicRegistered = true) (controllers : List κ) :
    ∃ callback, (s.next (.activeSessionsChanged controllers)) = { s with
      mMediaActiveSessions := controllers
      activeSessions := controllers
      registrations := (s.mMediaActiveSessions.map fun controller => (controller, callback)).toFinset
        ∪ (controllers.map fun controller => (controller, callback)).toFinset } ∧
      s.mMediaSessionCallback = some callback := by
  obtain ⟨hlistener, _, callback, hcallback, hall⟩ := hs.enabled hregistered
  refine ⟨callback, ?_, hcallback⟩
  simp only [next, hlistener, if_true, onActiveSessionsChanged, registerSessionCallbacks_eq,
    MediaSessions.callback, hcallback, Option.getD_some, Option.isNone_some, Bool.false_eq_true,
    if_false, hall]

theorem Exact.onActiveSessions_changed_iff {s : MediaSessions κ} (hs : s.Exact)
    (hregistered : s.mSessionMusicRegistered = true) (controllers : List κ) :
    (s.next (.activeSessionsChanged controllers)).OnActiveSessions true ↔
      ∀ controller ∈ s.activeSessions, controller ∈ controllers := by
  obtain ⟨callback, hnext, _⟩ := hs.changed hregistered controllers
  obtain ⟨_, hactive, _⟩ := hs.enabled hregistered
  unfold OnActiveSessions
  rw [if_pos rfl, hnext, Finset.image_union, image_fst_map, image_fst_map, Finset.union_eq_right,
    hactive]
  exact ⟨fun h controller hmem => List.mem_toFinset.mp (h (List.mem_toFinset.mpr hmem)),
    fun h controller hmem => List.mem_toFinset.mpr (h controller (List.mem_toFinset.mp hmem))⟩

/-- A change that drops no session leaves no callback behind. -/
theorem Exact.changed_of_subset {s : MediaSessions κ} (hs : s.Exact) {controllers : List κ}
    (hsub : s.mSessionMusicRegistered = true →
      ∀ controller ∈ s.activeSessions, controller ∈ controllers) :
    (s.next (.activeSessionsChanged controllers)).Exact := by
  cases hregistered : s.mSessionMusicRegistered with
  | true =>
    obtain ⟨hlistener, hactive, _⟩ := hs.enabled hregistered
    obtain ⟨callback, hnext, hcallback⟩ := hs.changed hregistered controllers
    rw [hnext]
    refine ⟨fun _ => ⟨hlistener, rfl, callback, hcallback, ?_⟩, fun h => ?_⟩
    · refine Finset.union_eq_right.mpr fun entry hentry => ?_
      obtain ⟨controller, hmem, rfl⟩ := List.mem_map.mp (List.mem_toFinset.mp hentry)
      rw [← hactive] at hmem
      exact List.mem_toFinset.mpr (List.mem_map_of_mem (hsub hregistered controller hmem))
    · cases hregistered.symm.trans h
  | false =>
    obtain ⟨hlistener, hcallback, hnone⟩ := hs.disabled hregistered
    have hnext : s.next (.activeSessionsChanged controllers) =
        { s with activeSessions := controllers } := by
      simp only [next, hlistener, Bool.false_eq_true, if_false]
    rw [hnext]
    refine ⟨fun h => ?_, fun _ => ⟨hlistener, hcallback, hnone⟩⟩
    cases hregistered.symm.trans h

end MediaSessions

namespace State

variable {κ : Type}

/-! ## The media sessions of the service -/

theorem Settled.registered_eq {s : State κ} (hs : s.Settled) : s.media.mSessionMusicRegistered =
    decide (s.preferences.lightsEffectsMusicEnable ≠ 0) := hs.session.trans hs.enable

variable [DecidableEq κ] {hsvToColor : Int → BitVec 32}

theorem step_media {s s' : State κ} (hs : s.Consistent) {ev : Event κ}
    (h : s.step hsvToColor ev = some s') : s'.media = s.media.next ev := by
  cases ev with
  | screenOn =>
    cases h
    obtain ⟨_, _, hswitch⟩ := s.switchScreen_eq true
    have hmedia := congrArg media hswitch
    exact hmedia
  | screenOff =>
    cases h
    obtain ⟨_, _, hswitch⟩ := s.switchScreen_eq false
    have hmedia := congrArg media hswitch
    exact hmedia
  | preferencesChanged preferences sessions =>
    cases h
    have hconsistent := hs.of_preferences preferences
    rw [applySettings_eq hconsistent]
    split <;> rfl
  | activeSessionsChanged controllers => cases h; rfl
  | playbackStateChanged controller callback state =>
    obtain ⟨_, h⟩ := Option.ite_none_right_eq_some.mp h
    cases h
    cases state <;> rfl
  | metadataChanged controller callback metadata =>
    obtain ⟨_, h⟩ := Option.ite_none_right_eq_some.mp h
    cases h
    obtain ⟨_, _, _, hmetadata⟩ := s.onMetadataChanged_eq hsvToColor metadata
    have hmedia := congrArg media hmetadata
    exact hmedia
  | paletteGenerated vibrant lightVibrant darkVibrant =>
    obtain ⟨_, h⟩ := Option.ite_none_right_eq_some.mp h
    cases h
    rfl

/-- A callback of the service is registered on exactly the active sessions while the effect is
enabled, and on none while it is not. -/
def OnActiveSessions (s : State κ) : Prop :=
  s.media.OnActiveSessions (decide (s.preferences.lightsEffectsMusicEnable ≠ 0))

/-- A session is gone from the list while the effect is enabled. -/
def DropsSession (s : State κ) : Event κ → Prop
  | .activeSessionsChanged controllers =>
    s.preferences.lightsEffectsMusicEnable ≠ 0 ∧
      ∃ controller ∈ s.media.activeSessions, controller ∉ controllers
  | _ => False

theorem exact_step {s s' : State κ} (hs : s.Settled) (hm : s.media.Exact) {ev : Event κ}
    (hev : ¬s.DropsSession ev) (h : s.step hsvToColor ev = some s') : s'.media.Exact := by
  rw [step_media hs.toConsistent h]
  cases ev with
  | activeSessionsChanged controllers =>
    refine hm.changed_of_subset fun hregistered controller hmem => ?_
    by_contra hdropped
    refine hev ⟨?_, controller, hmem, hdropped⟩
    exact of_decide_eq_true (hs.registered_eq.symm.trans hregistered)
  | preferencesChanged preferences sessions => exact hm.setSessionMusic _ sessions
  | screenOn => exact hm
  | screenOff => exact hm
  | playbackStateChanged controller callback state => exact hm
  | metadataChanged controller callback metadata => exact hm
  | paletteGenerated vibrant lightVibrant darkVibrant => exact hm

theorem onActiveSessions_step_iff {s s' : State κ} (hs : s.Settled) (hm : s.media.Exact)
    {ev : Event κ} (h : s.step hsvToColor ev = some s') :
    s'.OnActiveSessions ↔ ¬s.DropsSession ev := by
  have hs' := hs.step h
  by_cases hev : s.DropsSession ev
  · refine iff_of_false ?_ (not_not.mpr hev)
    cases ev with
    | activeSessionsChanged controllers =>
      obtain ⟨henable, controller, hmem, hdropped⟩ := hev
      have hregistered : s.media.mSessionMusicRegistered = true :=
        hs.registered_eq.trans (decide_eq_true henable)
      have henable' : decide (s'.preferences.lightsEffectsMusicEnable ≠ 0) = true := by
        cases h
        exact decide_eq_true henable
      unfold OnActiveSessions
      rw [henable', step_media hs.toConsistent h, hm.onActiveSessions_changed_iff hregistered]
      exact fun hall => hdropped (hall controller hmem)
    | preferencesChanged preferences sessions => cases hev
    | screenOn => cases hev
    | screenOff => cases hev
    | playbackStateChanged controller callback state => cases hev
    | metadataChanged controller callback metadata => cases hev
    | paletteGenerated vibrant lightVibrant darkVibrant => cases hev
  · refine iff_of_true ?_ hev
    unfold OnActiveSessions
    rw [← hs'.registered_eq]
    exact (exact_step hs hm hev h).onActiveSessions

theorem exact_start (preferences : Preferences) (lightsEffectsGain lightsEffectsValue : String)
    (sessions : List κ) :
    (start preferences lightsEffectsGain lightsEffectsValue sessions).media.Exact := by
  have hnew : (⟨false, [], none, false, ∅, 0, []⟩ : MediaSessions κ).Exact :=
    ⟨nofun, fun _ => ⟨rfl, rfl, rfl⟩⟩
  unfold start onStartCommand
  rw [applySettings_eq ⟨rfl, rfl⟩]
  split <;> exact hnew.setSessionMusic _ sessions

/-- In every run, the callbacks are registered on exactly the active sessions while the effect is
enabled, and nowhere while it is not, exactly when no session is dropped from the list. -/
theorem onActiveSessions_iff (hsvToColor : Int → BitVec 32) (preferences : Preferences)
    (lightsEffectsGain lightsEffectsValue : String) (sessions : List κ) (es : List (Event κ)) :
    let s := start preferences lightsEffectsGain lightsEffectsValue sessions
    Always OnActiveSessions (step hsvToColor) s es ↔
      AllMeet (fun s ev => ¬s.DropsSession ev) (step hsvToColor) s es :=
  always_iff_allMeet (fun s => s.Settled ∧ s.media.Exact)
    (fun _ _ _ ⟨hs, hm⟩ hev h => ⟨hs.step h, exact_step hs hm hev h⟩)
    (fun _ _ _ ⟨hs, hm⟩ h => onActiveSessions_step_iff hs hm h)
    ⟨settled_start preferences lightsEffectsGain lightsEffectsValue sessions,
      exact_start preferences lightsEffectsGain lightsEffectsValue sessions⟩

/-- The only session ends. -/
theorem registered_after_end : ¬∀ (hsvToColor : Int → BitVec 32) (preferences : Preferences)
    (lightsEffectsGain lightsEffectsValue : String) (sessions : List Nat) (es : List (Event Nat)),
    Always OnActiveSessions (step hsvToColor)
      (start preferences lightsEffectsGain lightsEffectsValue sessions) es := by
  intro h
  have hrun := h (fun _ => white) ⟨1, 0, 0, 4⟩ "" "" [7] [.activeSessionsChanged []]
  have hactive : OnActiveSessions _ := (hrun _ rfl).1
  revert hactive
  unfold OnActiveSessions MediaSessions.OnActiveSessions
  decide

end State
end LightsEffects
end Huashan
