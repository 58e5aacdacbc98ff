import Huashan.LightsEffects.Settings

/-!
# Huashan.LightsEffects.Playing

The one flag `mAudioMusicPlaying` and the playback states of several sessions.

`playingRight_iff`: while the effect is enabled, the flag says whether a session of the current
list has reported an active playback state last, exactly when no event says something about one
session that is not so of all of them.
-/

namespace Huashan
namespace LightsEffects
namespace State

variable {κ : Type}

/-- One of the controllers has reported an active playback state last. -/
def AnyActive (s : State κ) (controllers : List κ) : Prop :=
  ∃ controller ∈ controllers, s.lastReport controller = some true

/-- Another controller of the current list has reported an active playback state last. -/
def OtherActive (s : State κ) (controller : κ) : Prop :=
  ∃ other ∈ s.media.activeSessions, other ≠ controller ∧ s.lastReport other = some true

/-- While the effect is enabled, the flag is right. -/
def PlayingRight (s : State κ) : Prop :=
  s.preferences.lightsEffectsMusicEnable ≠ 0 →
    (s.mAudioMusicPlaying = true ↔ s.AnyActive s.media.activeSessions)

/-- The event sets the flag, or leaves it, against what the current sessions have reported:
a session that is not listed plays while no listed one does, a session pauses while another one
plays, the list changes between sessions that play and sessions that do not, or the effect is
enabled with a flag from before. -/
def Misleads (s : State κ) : Event κ → Prop
  | .preferencesChanged preferences sessions =>
    preferences.lightsEffectsMusicEnable ≠ 0 ∧ s.preferences.lightsEffectsMusicEnable = 0 ∧
      ¬(s.mAudioMusicPlaying = true ↔ s.AnyActive sessions)
  | .activeSessionsChanged controllers =>
    s.preferences.lightsEffectsMusicEnable ≠ 0 ∧
      ¬(s.AnyActive controllers ↔ s.AnyActive s.media.activeSessions)
  | .playbackStateChanged controller _ (some state) =>
    s.preferences.lightsEffectsMusicEnable ≠ 0 ∧
      if isPlaybackActive state then
        controller ∉ s.media.activeSessions ∧ ¬s.OtherActive controller
      else s.OtherActive controller
  | _ => False

/-- What `PlayingRight` looks at. -/
def reports (s : State κ) : Preferences × Bool × (κ → Option Bool) × List κ :=
  (s.preferences, s.mAudioMusicPlaying, s.lastReport, s.media.activeSessions)

theorem PlayingRight.of_reports {s t : State κ} (h : t.reports = s.reports)
    (hs : s.PlayingRight) : t.PlayingRight := by
  simp only [reports, Prod.mk.injEq] at h
  obtain ⟨hpreferences, hplaying, hlast, hactive⟩ := h
  intro henable
  rw [hpreferences] at henable
  have hflag := hs henable
  unfold AnyActive at hflag ⊢
  rw [hplaying, hlast, hactive]
  exact hflag

variable [DecidableEq κ] {hsvToColor : Int → BitVec 32}

/-- After a report, the sessions that play are the reporter, if it does, and the others. -/
theorem anyActive_report (s : State κ) (controller : κ) (active : Bool) :
    (∃ other ∈ s.media.activeSessions,
      Function.update s.lastReport controller (some active) other = some true) ↔
      (controller ∈ s.media.activeSessions ∧ active = true) ∨ s.OtherActive controller := by
  constructor
  · rintro ⟨other, hmem, hreport⟩
    by_cases hother : other = controller
    · subst hother
      rw [Function.update_self] at hreport
      exact .inl ⟨hmem, Option.some.inj hreport⟩
    · rw [Function.update_of_ne hother] at hreport
      exact .inr ⟨other, hmem, hother, hreport⟩
  · rintro (⟨hmem, rfl⟩ | ⟨other, hmem, hother, hreport⟩)
    · exact ⟨controller, hmem, Function.update_self controller _ _⟩
    · refine ⟨other, hmem, ?_⟩
      rw [Function.update_of_ne hother]
      exact hreport

theorem playingRight_report_iff {s s' : State κ} {controller : κ} {callback : Nat}
    {state : PlaybackState}
    (h : s.step hsvToColor (.playbackStateChanged controller callback (some state)) = some s') :
    s'.PlayingRight ↔
      ¬s.Misleads (.playbackStateChanged controller callback (some state)) := by
  obtain ⟨_, h⟩ := Option.ite_none_right_eq_some.mp h
  cases h
  have hany := s.anyActive_report controller (isPlaybackActive state)
  show (s.preferences.lightsEffectsMusicEnable ≠ 0 → (isPlaybackActive state = true ↔
    ∃ other ∈ s.media.activeSessions, Function.update s.lastReport controller
      (some (isPlaybackActive state)) other = some true)) ↔ ¬(_ ∧ _)
  rw [hany, not_and]
  refine forall_congr' fun _ => ?_
  cases isPlaybackActive state with
  | true =>
    simp only [true_iff, and_true, if_true, not_and_or, not_not]
  | false =>
    simp only [Bool.false_eq_true, and_false, false_or, false_iff, if_false]

theorem activeSessions_setSessionMusic (media : MediaSessions κ) (enable : Bool)
    (sessions : List κ) : (media.setSessionMusic enable sessions).activeSessions =
      if enable && !media.mSessionMusicRegistered then sessions else media.activeSessions := by
  unfold MediaSessions.setSessionMusic
  split
  · next h => rw [h]; simp
  · next h =>
    cases enable with
    | true =>
      have hoff : media.mSessionMusicRegistered = false := by simpa using h
      rw [hoff]
      simp [MediaSessions.registerSessionCallbacks_eq]
    | false =>
      simp only [Bool.false_eq_true, if_false, Bool.false_and]
      unfold MediaSessions.unregisterSessionCallbacks
      split
      · rfl
      · rw [MediaSessions.foldl_unregisterCallback]

theorem playingRight_preferences_iff {s : State κ} (hs : s.Settled) (hright : s.PlayingRight)
    (preferences : Preferences) (sessions : List κ) :
    (({ s with preferences := preferences } : State κ).applySettings sessions).PlayingRight ↔
        ¬s.Misleads (.preferencesChanged preferences sessions) := by
  have hconsistent := hs.of_preferences preferences
  have hreports : (({ s with preferences := preferences } : State κ).applySettings
      sessions).reports = (({ s with preferences := preferences } : State κ).settled
        sessions).reports := by
    rw [applySettings_eq hconsistent]
    split <;> rfl
  have hactive := activeSessions_setSessionMusic s.media
    (decide (preferences.lightsEffectsMusicEnable ≠ 0)) sessions
  rw [hs.session, hs.enable] at hactive
  have hsettled :
      (({ s with preferences := preferences } : State κ).settled sessions).PlayingRight ↔
        ¬s.Misleads (.preferencesChanged preferences sessions) := by
    show (preferences.lightsEffectsMusicEnable ≠ 0 → (s.mAudioMusicPlaying = true ↔ s.AnyActive
      (s.media.setSessionMusic (decide (preferences.lightsEffectsMusicEnable ≠ 0))
        sessions).activeSessions)) ↔ ¬(_ ∧ _)
    rw [hactive, not_and]
    refine forall_congr' fun henable => ?_
    rw [decide_eq_true henable]
    by_cases hoff : s.preferences.lightsEffectsMusicEnable = 0
    · simp only [hoff, true_and, not_not]
      exact Iff.rfl
    · refine iff_of_true ?_ fun h => hoff h.1
      simp only [decide_eq_true hoff]
      exact hright hoff
  rw [← hsettled]
  exact ⟨PlayingRight.of_reports hreports.symm, PlayingRight.of_reports hreports⟩

theorem playingRight_activeSessions_iff {s s' : State κ} (hright : s.PlayingRight)
    {controllers : List κ} (h : s.step hsvToColor (.activeSessionsChanged controllers) = some s') :
    s'.PlayingRight ↔ ¬s.Misleads (.activeSessionsChanged controllers) := by
  cases h
  have hactive : (if s.media.mMediaSessionsListener then
      { s.media with activeSessions := controllers }.onActiveSessionsChanged controllers
      else { s.media with activeSessions := controllers }).activeSessions = controllers := by
    split
    · rw [MediaSessions.onActiveSessionsChanged, MediaSessions.registerSessionCallbacks_eq]
    · rfl
  show (s.preferences.lightsEffectsMusicEnable ≠ 0 → (s.mAudioMusicPlaying = true ↔ s.AnyActive
    (ite _ _ _ : MediaSessions κ).activeSessions)) ↔ ¬(_ ∧ _)
  rw [hactive, not_and]
  refine forall_congr' fun henable => ?_
  rw [not_not, hright henable]
  exact iff_comm

/-- One event, in a state in which the flag is right. -/
theorem playingRight_step_iff {s s' : State κ} (hs : s.Settled) (hright : s.PlayingRight)
    {ev : Event κ} (h : s.step hsvToColor ev = some s') :
    s'.PlayingRight ↔ ¬s.Misleads ev := by
  cases ev with
  | screenOn =>
    cases h
    obtain ⟨_, _, hswitch⟩ := s.switchScreen_eq true
    have hreports := congrArg reports hswitch
    exact iff_of_true (hright.of_reports hreports) not_false
  | screenOff =>
    cases h
    obtain ⟨_, _, hswitch⟩ := s.switchScreen_eq false
    have hreports := congrArg reports hswitch
    exact iff_of_true (hright.of_reports hreports) not_false
  | preferencesChanged preferences sessions =>
    cases h
    exact playingRight_preferences_iff hs hright preferences sessions
  | activeSessionsChanged controllers => exact playingRight_activeSessions_iff hright h
  | playbackStateChanged controller callback state =>
    cases state with
    | some state => exact playingRight_report_iff h
    | none =>
      obtain ⟨_, h⟩ := Option.ite_none_right_eq_some.mp h
      cases h
      exact iff_of_true hright not_false
  | metadataChanged controller callback metadata =>
    obtain ⟨_, h⟩ := Option.ite_none_right_eq_some.mp h
    cases h
    obtain ⟨_, _, _, hmetadata⟩ := s.onMetadataChanged_eq hsvToColor metadata
    have hreports := congrArg reports hmetadata
    exact iff_of_true (hright.of_reports hreports) not_false
  | paletteGenerated vibrant lightVibrant darkVibrant =>
    obtain ⟨_, h⟩ := Option.ite_none_right_eq_some.mp h
    cases h
    exact iff_of_true hright not_false

theorem playingRight_start (preferences : Preferences)
    (lightsEffectsGain lightsEffectsValue : String) (sessions : List κ) :
    (start preferences lightsEffectsGain lightsEffectsValue sessions).PlayingRight := by
  have hreports : (start preferences lightsEffectsGain lightsEffectsValue
      sessions).mAudioMusicPlaying = false ∧ (start preferences lightsEffectsGain
        lightsEffectsValue sessions).lastReport = fun _ => none := by
    unfold start onStartCommand
    rw [applySettings_eq ⟨rfl, rfl⟩]
    split <;> exact ⟨rfl, rfl⟩
  intro _
  rw [hreports.1]
  refine iff_of_false Bool.false_ne_true fun ⟨controller, _, hreport⟩ => ?_
  rw [hreports.2] at hreport
  cases hreport

/-- In every run, while the effect is enabled the flag says whether a current session has reported
an active playback state last, exactly when no event misleads. -/
theorem playingRight_iff (hsvToColor : Int → BitVec 32) (preferences : Preferences)
    (lightsEffectsGain lightsEffectsValue : String) (sessions : List κ) (es : List (Event κ)) :
    let s := start preferences lightsEffectsGain lightsEffectsValue sessions
    Always PlayingRight (step hsvToColor) s es ↔
      AllMeet (fun s ev => ¬s.Misleads ev) (step hsvToColor) s es :=
  always_iff_allMeet (fun s => s.Settled ∧ s.PlayingRight)
    (fun _ _ _ ⟨hs, hright⟩ hev h => ⟨hs.step h, (playingRight_step_iff hs hright h).mpr hev⟩)
    (fun _ _ _ ⟨hs, hright⟩ h => playingRight_step_iff hs hright h)
    ⟨settled_start preferences lightsEffectsGain lightsEffectsValue sessions,
      playingRight_start preferences lightsEffectsGain lightsEffectsValue sessions⟩

/-- One session plays, and another one reports that it is paused. -/
theorem paused_beside_playing : ¬∀ (hsvToColor : Int → BitVec 32) (preferences : Preferences)
    (lightsEffectsGain lightsEffectsValue : String) (sessions : List Nat) (es : List (Event Nat)),
    Always PlayingRight (step hsvToColor)
      (start preferences lightsEffectsGain lightsEffectsValue sessions) es := by
  intro h
  have hrun := h (fun _ => white) ⟨1, 0, 0, 4⟩ "" "" [7, 8]
    [.playbackStateChanged 7 0 (some .statePlaying), .playbackStateChanged 8 0 (some .statePaused)]
  have hright : PlayingRight _ := ((hrun _ rfl).2 _ rfl).1
  have hflag := (hright Int.one_ne_zero).mpr ⟨7, List.mem_cons_self, rfl⟩
  cases hflag

end State
end LightsEffects
end Huashan
