import Huashan.LightsEffects.Settings

/-!
# Huashan.LightsEffects.Property

`sys.lights_effects_value` over whole runs. The value is written whenever something that it is made
of changes, with `mDisplayState` for the screen; the receiver that keeps `mDisplayState` is
registered only while it is needed.

`reflects_iff`: the property is what the preferences, the music and the real screen ask for,
exactly when the screen state is not used while it is out of date, and the property is not left
unset.
-/

namespace Huashan
namespace LightsEffects
namespace State

variable {κ : Type}

/-! ## The value -/

theorem colorString_ne_zero (color : BitVec 32) : colorString color ≠ "0" := by
  intro h
  have hchars := congrArg String.toList h
  rw [colorString, String.toList_append] at hchars
  cases hchars

/-- The value depends on the screen. -/
def ScreenMatters (s : State κ) : Prop :=
  s.mLightsEffectsMusicEnable = true ∧ s.mLightsEffectsMusicAwake = true ∧
    (s.mAudioMusicPlaying = true ∨ s.mLightsEffectsMusicAlways = true)

theorem valueFor_eq_iff (s : State κ) (display display' : Bool) :
    s.valueFor display = s.valueFor display' ↔ (s.ScreenMatters → display = display') := by
  have hcolor := colorString_ne_zero s.mLightsEffectsMusicColor
  unfold valueFor ScreenMatters
  generalize colorString s.mLightsEffectsMusicColor = color at hcolor
  cases s.mLightsEffectsMusicEnable <;> cases s.mLightsEffectsMusicAwake <;>
    cases s.mAudioMusicPlaying <;> cases s.mLightsEffectsMusicAlways <;> cases display <;>
    cases display' <;> simp [hcolor, hcolor.symm]

/-- What the property should be: the preferences, the music and the real screen decide. -/
def reflection (s : State κ) : String :=
  if s.preferences.lightsEffectsMusicEnable ≠ 0 ∧
      (s.mAudioMusicPlaying = true ∨ s.preferences.lightsEffectsMusicAlways ≠ 0) ∧
      (s.preferences.lightsEffectsMusicAwake = 0 ∨ s.screenOn = true) then
    colorString s.mLightsEffectsMusicColor
  else "0"

def Reflects (s : State κ) : Prop := s.lightsEffectsValue = s.reflection

theorem Settled.reflection_eq {s : State κ} (hs : s.Settled) :
    s.reflection = s.valueFor s.screenOn := by
  unfold reflection valueFor
  rw [hs.enable, hs.awake, hs.always]
  refine if_congr ?_ rfl rfl
  simp [and_assoc]

/-- The property was written with the fields as they are. -/
def Written (s : State κ) : Prop := s.lightsEffectsValue = s.valueFor s.mDisplayState

theorem Written.reflects_iff_screenRight {s : State κ} (hw : s.Written) (hs : s.Settled) :
    s.Reflects ↔ (s.ScreenMatters → s.mDisplayState = s.screenOn) := by
  unfold Reflects
  rw [hs.reflection_eq, hw]
  exact s.valueFor_eq_iff s.mDisplayState s.screenOn

/-- The screen state is right wherever the value depends on it. -/
def ScreenRight (s : State κ) : Prop := s.ScreenMatters → s.mDisplayState = s.screenOn

/-! ## Events -/

/-- A registered receiver keeps the screen state, and an unregistered one is not needed. -/
theorem Written.switchScreen {s : State κ} (hw : s.Written) (hs : s.Settled) (screenOn : Bool) :
    (s.switchScreen screenOn).Written ∧ (s.switchScreen screenOn).ScreenRight := by
  have hswitch : s.switchScreen screenOn = if s.mIntentScreenRegistered then
      ({ s with screenOn := screenOn } : State κ).onReceive screenOn
      else { s with screenOn := screenOn } := rfl
  rw [hswitch, onReceive_eq]
  split
  · split
    · next hd => exact ⟨hw, fun _ => hd⟩
    · exact ⟨rfl, fun _ => rfl⟩
  · next hr =>
    refine ⟨hw, fun ⟨he, ha, _⟩ => absurd ?_ hr⟩
    rw [hs.screen, show s.mLightsEffectsMusicEnable = true from he,
      show s.mLightsEffectsMusicAwake = true from ha]
    rfl

theorem Written.onMetadataChanged {s : State κ} (hw : s.Written) (hsvToColor : Int → BitVec 32)
    (metadata : Option MediaMetadata) : (s.onMetadataChanged hsvToColor metadata).Written := by
  unfold State.onMetadataChanged
  split
  · exact hw
  · simp only []
    split
    · exact hw
    · rfl

theorem ScreenRight.onMetadataChanged {s : State κ} (hs : s.ScreenRight)
    (hsvToColor : Int → BitVec 32) (metadata : Option MediaMetadata) :
    (s.onMetadataChanged hsvToColor metadata).ScreenRight := by
  unfold State.onMetadataChanged
  split
  · exact hs
  · simp only []
    split <;> exact hs

/-! ## States of a run -/

/-- All three settings are off, and nothing has written the property since it was something else
than 0. -/
structure Unset (s : State κ) : Prop where
  enable : s.mLightsEffectsMusicEnable = false
  awake : s.mLightsEffectsMusicAwake = false
  always : s.mLightsEffectsMusicAlways = false
  value : s.lightsEffectsValue ≠ "0"

/-- The event makes the value depend on a screen state that is out of date. -/
def UsesStaleScreen (s : State κ) : Event κ → Prop
  | .preferencesChanged preferences _ =>
    preferences.lightsEffectsMusicEnable ≠ 0 ∧ preferences.lightsEffectsMusicAwake ≠ 0 ∧
      (s.mAudioMusicPlaying = true ∨ preferences.lightsEffectsMusicAlways ≠ 0) ∧
      s.mDisplayState ≠ s.screenOn
  | .playbackStateChanged _ _ state =>
    state.any isPlaybackActive = true ∧ s.mLightsEffectsMusicEnable = true ∧
      s.mLightsEffectsMusicAwake = true ∧ s.mDisplayState ≠ s.screenOn
  | _ => False

/-- The event leaves the property unset. -/
def LeavesUnset (s : State κ) : Event κ → Prop
  | .preferencesChanged preferences _ =>
    s.Unset ∧ preferences.lightsEffectsMusicEnable = 0 ∧
      preferences.lightsEffectsMusicAwake = 0 ∧ preferences.lightsEffectsMusicAlways = 0
  | _ => s.Unset

/-- The states in which the property is right. -/
structure Reflecting (s : State κ) : Prop where
  settled : s.Settled
  written : s.Written
  screenRight : s.ScreenRight

/-- The state of a service that was started with all settings off and has not been used. -/
structure Fresh (s : State κ) : Prop where
  settled : s.Settled
  unset : s.Unset
  registrations : s.media.registrations = ∅
  mPaletteTask : s.mPaletteTask = false

theorem Reflecting.not_unset {s : State κ} (hs : s.Reflecting) : ¬s.Unset := by
  intro hunset
  refine hunset.value (hs.written.trans ?_)
  unfold valueFor
  rw [hunset.enable]
  rfl

/-- With the effect off, the property should be 0. -/
theorem not_reflects_of_off {s : State κ} (hs : s.Settled)
    (henable : s.mLightsEffectsMusicEnable = false) (hvalue : s.lightsEffectsValue ≠ "0") :
    ¬s.Reflects := by
  intro h
  refine hvalue (h.trans ?_)
  rw [hs.reflection_eq, valueFor, henable]
  rfl

theorem Reflecting.not_leavesUnset {s : State κ} (hs : s.Reflecting) (ev : Event κ) :
    ¬s.LeavesUnset ev := by
  cases ev with
  | preferencesChanged preferences sessions => exact fun h => hs.not_unset h.1
  | screenOn => exact hs.not_unset
  | screenOff => exact hs.not_unset
  | activeSessionsChanged controllers => exact hs.not_unset
  | playbackStateChanged controller callback state => exact hs.not_unset
  | metadataChanged controller callback metadata => exact hs.not_unset
  | paletteGenerated vibrant lightVibrant darkVibrant => exact hs.not_unset

/-- The receiver of an unused service is not registered. -/
theorem Fresh.switchScreen_eq {s : State κ} (hs : s.Fresh) (screenOn : Bool) :
    s.switchScreen screenOn = { s with screenOn := screenOn } := by
  have hunregistered : s.mIntentScreenRegistered = false := by
    rw [hs.settled.screen, hs.unset.enable]
    rfl
  exact if_neg fun h => Bool.false_ne_true (hunregistered.symm.trans h)

theorem Fresh.unsettled_iff {s : State κ} (hs : s.Fresh) (preferences : Preferences) :
    ({ s with preferences := preferences } : State κ).Unsettled ↔
      ¬(preferences.lightsEffectsMusicEnable = 0 ∧ preferences.lightsEffectsMusicAwake = 0 ∧
        preferences.lightsEffectsMusicAlways = 0) := by
  unfold Unsettled
  simp only [hs.unset.enable, hs.unset.awake, hs.unset.always]
  simp only [ne_eq, Bool.false_eq, decide_eq_false_iff_not, not_not]
  tauto

/-! ## Steps and runs -/

variable [DecidableEq κ] {hsvToColor : Int → BitVec 32}

theorem Written.applySettings {s : State κ} (hs : s.Consistent) (sessions : List κ)
    (hw : s.Unsettled ∨ s.Written) : (s.applySettings sessions).Written := by
  rw [applySettings_eq hs]
  split
  · rfl
  · next h =>
    obtain ⟨he, h'⟩ := not_or.mp h
    obtain ⟨ha, hl⟩ := not_or.mp h'
    have hvalue : (s.settled sessions).valueFor s.mDisplayState = s.valueFor s.mDisplayState := by
      unfold valueFor settled
      simp only [← not_not.mp he, ← not_not.mp ha, ← not_not.mp hl]
    exact (hw.resolve_left h).trans hvalue.symm

theorem screenRight_applySettings {s : State κ} (hs : s.Consistent) (sessions : List κ) :
    (s.applySettings sessions).ScreenRight ↔
      ¬(s.preferences.lightsEffectsMusicEnable ≠ 0 ∧ s.preferences.lightsEffectsMusicAwake ≠ 0 ∧
        (s.mAudioMusicPlaying = true ∨ s.preferences.lightsEffectsMusicAlways ≠ 0) ∧
        s.mDisplayState ≠ s.screenOn) := by
  have hsettled : (s.settled sessions).ScreenRight ↔
      ¬(s.preferences.lightsEffectsMusicEnable ≠ 0 ∧ s.preferences.lightsEffectsMusicAwake ≠ 0 ∧
        (s.mAudioMusicPlaying = true ∨ s.preferences.lightsEffectsMusicAlways ≠ 0) ∧
        s.mDisplayState ≠ s.screenOn) := by
    unfold ScreenRight ScreenMatters settled
    simp only [decide_eq_true_eq, and_imp, not_and, not_not]
  rw [applySettings_eq hs]
  split <;> exact hsettled

/-- From a state in which the property is right. -/
theorem Reflecting.step {s s' : State κ} (hs : s.Reflecting) {ev : Event κ}
    (h : s.step hsvToColor ev = some s') :
    s'.Written ∧ (s'.ScreenRight ↔ ¬s.UsesStaleScreen ev) := by
  cases ev with
  | screenOn =>
    cases h
    obtain ⟨hwritten, hright⟩ := hs.written.switchScreen hs.settled true
    exact ⟨hwritten, iff_of_true hright not_false⟩
  | screenOff =>
    cases h
    obtain ⟨hwritten, hright⟩ := hs.written.switchScreen hs.settled false
    exact ⟨hwritten, iff_of_true hright not_false⟩
  | preferencesChanged preferences sessions =>
    cases h
    have hconsistent := hs.settled.of_preferences preferences
    exact ⟨Written.applySettings hconsistent sessions (.inr hs.written),
      screenRight_applySettings hconsistent sessions⟩
  | activeSessionsChanged controllers =>
    cases h
    exact ⟨hs.written, iff_of_true hs.screenRight not_false⟩
  | playbackStateChanged controller callback state =>
    obtain ⟨_, h⟩ := Option.ite_none_right_eq_some.mp h
    cases h
    cases state with
    | none => exact ⟨hs.written, iff_of_true hs.screenRight fun h => Bool.false_ne_true h.1⟩
    | some state =>
      refine ⟨rfl, fun hright ⟨hactive, he, ha, hd⟩ => hd (hright ⟨he, ha, .inl hactive⟩),
        fun hfresh ⟨he, ha, hp⟩ => ?_⟩
      obtain hactive | halways := hp
      · exact not_not.mp fun hd => hfresh ⟨hactive, he, ha, hd⟩
      · exact hs.screenRight ⟨he, ha, .inr halways⟩
  | metadataChanged controller callback metadata =>
    obtain ⟨_, h⟩ := Option.ite_none_right_eq_some.mp h
    cases h
    exact ⟨hs.written.onMetadataChanged hsvToColor metadata,
      iff_of_true (hs.screenRight.onMetadataChanged hsvToColor metadata) not_false⟩
  | paletteGenerated vibrant lightVibrant darkVibrant =>
    obtain ⟨_, h⟩ := Option.ite_none_right_eq_some.mp h
    cases h
    exact ⟨rfl, iff_of_true hs.screenRight not_false⟩

theorem Reflecting.step_iff {s s' : State κ} (hs : s.Reflecting) {ev : Event κ}
    (h : s.step hsvToColor ev = some s') :
    s'.Reflects ↔ ¬s.UsesStaleScreen ev ∧ ¬s.LeavesUnset ev := by
  obtain ⟨hwritten, hright⟩ := hs.step h
  rw [hwritten.reflects_iff_screenRight (hs.settled.step h), and_iff_left (hs.not_leavesUnset ev)]
  exact hright

/-- An event that keeps the effect off, and does not write the property. -/
theorem Fresh.not_reflects {s s' : State κ} (hs : s.Fresh) {ev : Event κ}
    (h : s.step hsvToColor ev = some s') (henable : s'.mLightsEffectsMusicEnable = false)
    (hvalue : s'.lightsEffectsValue = s.lightsEffectsValue) : ¬s'.Reflects :=
  not_reflects_of_off (hs.settled.step h) henable fun hzero => hs.unset.value
    (hvalue.symm.trans hzero)

/-- The only event that writes the property of an unused service switches a setting on. -/
theorem Fresh.step {s s' : State κ} (hs : s.Fresh) {ev : Event κ}
    (h : s.step hsvToColor ev = some s') :
    (s.LeavesUnset ev ∧ ¬s'.Reflects) ∨
      (¬s.LeavesUnset ev ∧ s'.Written ∧ (s'.ScreenRight ↔ ¬s.UsesStaleScreen ev)) := by
  have hwrong := hs.not_reflects h
  cases ev with
  | screenOn =>
    cases h
    rw [hs.switchScreen_eq] at hwrong ⊢
    exact .inl ⟨hs.unset, hwrong hs.unset.enable rfl⟩
  | screenOff =>
    cases h
    rw [hs.switchScreen_eq] at hwrong ⊢
    exact .inl ⟨hs.unset, hwrong hs.unset.enable rfl⟩
  | preferencesChanged preferences sessions =>
    cases h
    have hconsistent := hs.settled.of_preferences preferences
    have hunsettled := hs.unsettled_iff preferences
    by_cases hall : preferences.lightsEffectsMusicEnable = 0 ∧
        preferences.lightsEffectsMusicAwake = 0 ∧ preferences.lightsEffectsMusicAlways = 0
    · rw [applySettings_eq hconsistent, if_neg fun h => hunsettled.mp h hall] at hwrong ⊢
      refine .inl ⟨⟨hs.unset, hall⟩, hwrong ?_ rfl⟩
      exact decide_eq_false (not_not.mpr hall.1)
    · refine .inr ⟨fun h => hall h.2, ?_, screenRight_applySettings hconsistent sessions⟩
      exact Written.applySettings hconsistent sessions (.inl (hunsettled.mpr hall))
  | activeSessionsChanged controllers =>
    cases h
    exact .inl ⟨hs.unset, hwrong hs.unset.enable rfl⟩
  | playbackStateChanged controller callback state =>
    obtain ⟨hmem, _⟩ := Option.ite_none_right_eq_some.mp h
    rw [hs.registrations] at hmem
    cases hmem
  | metadataChanged controller callback metadata =>
    obtain ⟨hmem, _⟩ := Option.ite_none_right_eq_some.mp h
    rw [hs.registrations] at hmem
    cases hmem
  | paletteGenerated vibrant lightVibrant darkVibrant =>
    obtain ⟨htask, _⟩ := Option.ite_none_right_eq_some.mp h
    cases htask.symm.trans hs.mPaletteTask

theorem Fresh.step_iff {s s' : State κ} (hs : s.Fresh) {ev : Event κ}
    (h : s.step hsvToColor ev = some s') :
    s'.Reflects ↔ ¬s.UsesStaleScreen ev ∧ ¬s.LeavesUnset ev := by
  obtain ⟨hleaves, hwrong⟩ | ⟨hleaves, hwritten, hright⟩ := hs.step h
  · exact iff_of_false hwrong fun hev => hev.2 hleaves
  · rw [hwritten.reflects_iff_screenRight (hs.settled.step h), and_iff_left hleaves]
    exact hright

/-- A service is started in a state in which the property is right, unless all settings are off. -/
theorem start_reflecting_or_fresh (preferences : Preferences)
    (lightsEffectsGain lightsEffectsValue : String) (sessions : List κ) :
    (start preferences lightsEffectsGain lightsEffectsValue sessions).Reflecting ∨
      (start preferences lightsEffectsGain lightsEffectsValue sessions).Fresh := by
  let u : State κ := { (new preferences lightsEffectsGain lightsEffectsValue : State κ) with
    mDisplayState := true }
  have hu : u.Consistent := ⟨rfl, rfl⟩
  have hright : (u.applySettings sessions).ScreenRight :=
    (screenRight_applySettings hu sessions).mpr fun h => h.2.2.2 rfl
  have hreflecting : u.Unsettled ∨ u.Written → (u.applySettings sessions).Reflecting := fun hw =>
    ⟨settled_applySettings hu sessions, Written.applySettings hu sessions hw, hright⟩
  by_cases hsettled : u.Unsettled
  · exact .inl (hreflecting (.inl hsettled))
  · by_cases hvalue : lightsEffectsValue = "0"
    · exact .inl (hreflecting (.inr hvalue))
    · refine .inr ?_
      obtain ⟨he, h⟩ := not_or.mp hsettled
      obtain ⟨ha, hl⟩ := not_or.mp h
      have hstart : u.applySettings sessions = u.settled sessions := by
        rw [applySettings_eq hu, if_neg hsettled]
      show (u.applySettings sessions).Fresh
      refine ⟨settled_applySettings hu sessions, ?_, ?_, ?_⟩
      · rw [hstart]
        exact ⟨(not_not.mp he).symm, (not_not.mp ha).symm, (not_not.mp hl).symm, hvalue⟩
      · rw [hstart]
        show (u.media.setSessionMusic _ sessions).registrations = ∅
        rw [← not_not.mp he]
        rfl
      · rw [hstart]
        rfl

/-- In every run, the property reflects the preferences, the music and the screen exactly when no
event uses a screen state that is out of date, and none leaves the property unset. -/
theorem reflects_iff (hsvToColor : Int → BitVec 32) (preferences : Preferences)
    (lightsEffectsGain lightsEffectsValue : String) (sessions : List κ) (es : List (Event κ)) :
    let s := start preferences lightsEffectsGain lightsEffectsValue sessions
    Always Reflects (step hsvToColor) s es ↔
      AllMeet (fun s ev => ¬s.UsesStaleScreen ev ∧ ¬s.LeavesUnset ev) (step hsvToColor) s es := by
  refine always_iff_allMeet (fun s => s.Reflecting ∨ s.Fresh) ?_ ?_
    (start_reflecting_or_fresh preferences lightsEffectsGain lightsEffectsValue sessions)
  · intro s ev s' hs ⟨hstale, hunset⟩ h
    refine .inl ?_
    obtain hs | hs := hs
    · obtain ⟨hwritten, hright⟩ := hs.step h
      exact ⟨hs.settled.step h, hwritten, hright.mpr hstale⟩
    · obtain ⟨hleaves, _⟩ | ⟨_, hwritten, hright⟩ := hs.step h
      · exact absurd hleaves hunset
      · exact ⟨hs.settled.step h, hwritten, hright.mpr hstale⟩
  · intro s ev s' hs h
    obtain hs | hs := hs
    · exact hs.step_iff h
    · exact hs.step_iff h

/-- The screen goes off, and on again while the receiver is not registered. -/
theorem stale_after_registering : ¬∀ (hsvToColor : Int → BitVec 32) (preferences : Preferences)
    (lightsEffectsGain lightsEffectsValue : String) (sessions : List Nat) (es : List (Event Nat)),
    Always Reflects (step hsvToColor)
      (start preferences lightsEffectsGain lightsEffectsValue sessions) es := by
  intro h
  have hrun := h (fun _ => white) ⟨1, 1, 1, 4⟩ "" "" []
    [.screenOff, .preferencesChanged ⟨1, 0, 1, 4⟩ [], .screenOn,
      .preferencesChanged ⟨1, 1, 1, 4⟩ []]
  have hreflects : Reflects _ := ((((hrun _ rfl).2 _ rfl).2 _ rfl).2 _ rfl).1
  exact colorString_ne_zero 0xFFFFFF#32 hreflects.symm

end State
end LightsEffects
end Huashan
