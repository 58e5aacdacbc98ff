import Huashan.Doze.Monitor

/-!
# Huashan.Doze.Pulse

Which events make the service broadcast a doze pulse. A gesture is armed by the proximity or the
pick-up sensor, and fires in `analyseDoze`.

`enabledPulses_iff`: every pulse is broadcast while `DOZE_ENABLED` is not 0, exactly when no
orientation completes an armed gesture after the setting has been switched off.
-/

namespace Huashan
namespace Doze
namespace State

variable {F : Type} {m : SensorManager F}

/-- One of the armed gestures is a pulse with the orientation at hand. -/
def pulseArmed (s : State F) : Bool :=
  s.mHandwaveDoze && !s.mOrientationSensor.isFaceDown ||
  s.mPickUpDoze && (s.mPickUpState && !s.mProximityNear ||
    !s.mPickUpState && s.mOrientationSensor.isFaceDown) ||
  s.mPocketDoze && s.mOrientationSensor.isVertical

/-- Only waking the device is armed. -/
def wakeArmed (s : State F) : Bool :=
  !s.pulseArmed && s.mProximityWake && !s.mOrientationSensor.isFaceDown

/-- What an analysis at this moment makes the service do. -/
def gesture (s : State F) (clock : Clock) : Option Effect :=
  if s.pulseArmed && s.pulseDue clock then some (.dozePulse s.dozeEnabled)
  else if s.wakeArmed then some .deviceWake else none

/-- The state after an effect. -/
def perform (s : State F) (clock : Clock) : Effect → State F
  | .dozePulse d =>
    { s with mLastPulseTimestamp := clock.stamp, effects := .dozePulse d :: s.effects }
  | .deviceWake => { s with effects := .deviceWake :: s.effects }

/-! ## Effects of the handlers -/

theorem launchDozePulse_eq (s : State F) (clock : Clock) :
    s.launchDozePulse clock = if s.pulseDue clock then s.perform clock (.dozePulse s.dozeEnabled)
      else s := rfl

/-- `launchGesture` does what the gesture at hand asks for, and nothing else. -/
theorem launchGesture_eq (s : State F) (clock : Clock) :
    s.launchGesture clock = (s.gesture clock).elim s (s.perform clock) := by
  have hfires : s.pulseArmed = true →
      s.launchDozePulse clock = (s.gesture clock).elim s (s.perform clock) := by
    intro harmed
    unfold gesture wakeArmed
    rw [launchDozePulse_eq, harmed]
    cases s.pulseDue clock <;> rfl
  unfold launchGesture
  split
  · next h => exact hfires (by simp [pulseArmed, h])
  · split
    · next h => exact hfires (by simp [pulseArmed, h])
    · split
      · next h => exact hfires (by simp [pulseArmed, h])
      · next h₁ h₂ h₃ =>
        have harmed : s.pulseArmed = false := by
          unfold pulseArmed
          rw [Bool.eq_false_of_not_eq_true h₁, Bool.eq_false_of_not_eq_true h₂,
            Bool.eq_false_of_not_eq_true h₃]
          rfl
        unfold gesture wakeArmed
        rw [harmed]
        split
        · next h => rw [Bool.not_false, Bool.true_and, h]; rfl
        · next h =>
          rw [Bool.not_false, Bool.true_and, Bool.eq_false_of_not_eq_true h]
          rfl

theorem effects_launchGesture (s : State F) (clock : Clock) :
    (s.launchGesture clock).effects = (s.gesture clock).toList ++ s.effects := by
  rw [launchGesture_eq]
  cases s.gesture clock with
  | none => rfl
  | some e => cases e <;> rfl

theorem effects_setPickUpSensor (s : State F) (enabled reset : Bool) :
    (s.setPickUpSensor m enabled reset).effects = s.effects := by
  cases enabled <;> rfl

theorem effects_restorePickUpSensor (s : State F) :
    (s.restorePickUpSensor m).effects = s.effects := by
  unfold restorePickUpSensor
  split
  · exact effects_setPickUpSensor s true false
  · rfl

/-- What `analyseDoze` does is what `launchGesture` does. -/
theorem effects_analyseDoze (s : State F) (clock : Clock) :
    (s.analyseDoze m clock).effects = (s.gesture clock).toList ++ s.effects := by
  show ((s.getDozeEnabled.launchGesture clock).restorePickUpSensor m).effects = _
  rw [effects_restorePickUpSensor]
  exact effects_launchGesture s.getDozeEnabled clock

/-- Disabling the orientation sensor first does not change what is found. -/
theorem gesture_setOrientationSensor (s : State F) (clock : Clock) :
    (s.setOrientationSensor m false false).gesture clock = s.gesture clock := by
  have hstate : (s.mOrientationSensor.disable m).isFaceDown = s.mOrientationSensor.isFaceDown ∧
      (s.mOrientationSensor.disable m).isVertical = s.mOrientationSensor.isVertical := by
    unfold OrientationSensor.disable
    split <;> exact ⟨rfl, rfl⟩
  show gesture { s with mOrientationSensor := s.mOrientationSensor.disable m } clock = _
  unfold gesture wakeArmed pulseArmed pulseDue
  rw [hstate.1, hstate.2]

theorem effects_onOrientationEvent (s : State F) (clock : Clock) :
    (s.onOrientationEvent m clock).effects =
      if s.mProximityNear then s.effects else (s.gesture clock).toList ++ s.effects := by
  have hanalyse := effects_analyseDoze (m := m) (s.setOrientationSensor m false false) clock
  rw [gesture_setOrientationSensor] at hanalyse
  unfold onOrientationEvent handleOrientation
  show State.effects (if !s.mProximityNear then _ else _) = _
  cases s.mProximityNear with
  | true => rfl
  | false => exact hanalyse

/-- A pick-up fires only with the gesture and the setting on. -/
theorem effects_onPickUpEvent (s : State F) (clock : Clock) :
    (s.onPickUpEvent m clock).effects =
      if s.mPickUpSensor.isPickedUp && s.getDozeEnabled.isPickUpEnabled then
        (gesture { s with mPickUpState := s.mPickUpSensor.isPickedUp, mPickUpDoze := true }
          clock).toList ++ s.effects
      else s.effects := by
  unfold onPickUpEvent handlePickUp
  simp only []
  split
  · next h =>
    rw [if_pos (by exact h)]
    exact effects_analyseDoze _ clock
  · next h => rw [if_neg (by exact h)]; rfl

theorem effects_handleProximity (s : State F) (timestamp : Int64) :
    (s.handleProximity m timestamp).effects = s.effects := by
  cases hnear : s.mProximityNear with
  | true =>
    rw [handleProximity_near s timestamp hnear]
    rfl
  | false =>
    obtain ⟨u, heq | heq | ⟨heq, _⟩, _, _, heffects⟩ :=
      handleProximity_far (m := m) s timestamp hnear
    all_goals
      rw [heq]
      exact heffects

theorem effects_onProximityInit (s : State F) (isNear : Bool) (timestamp : Int64) :
    (s.onProximityInit m isNear timestamp).effects = s.effects := by
  unfold onProximityInit
  simp only []
  split <;> rfl

/-- Every pulse of the last event was broadcast while `DOZE_ENABLED` was not 0. -/
def EnabledPulses (s : State F) : Prop := ∀ d, .dozePulse d ∈ s.effects → d ≠ 0

theorem enabledPulses_of_nil {s : State F} (h : s.effects = []) : s.EnabledPulses := by
  intro d hd
  rw [h] at hd
  cases hd

theorem enabledPulses_gesture {s t : State F} {clock : Clock}
    (h : t.effects = (s.gesture clock).toList ++ []) :
    t.EnabledPulses ↔
      ¬(s.dozeEnabled = 0 ∧ s.pulseArmed = true ∧ s.pulseDue clock = true) := by
  unfold EnabledPulses
  rw [h]
  unfold gesture
  cases s.pulseArmed <;> cases s.pulseDue clock <;> cases s.wakeArmed <;> simp

theorem enabledPulses_onPickUpEvent {s : State F} (hs : s.effects = []) (clock : Clock) :
    (s.onPickUpEvent m clock).EnabledPulses := by
  have heffects := effects_onPickUpEvent (m := m) s clock
  rw [hs] at heffects
  split at heffects
  · next henabled =>
    -- the setting has just been read
    have hdoze : s.dozeEnabled ≠ 0 := by
      simp only [State.isPickUpEnabled, getDozeEnabled, Bool.and_eq_true, decide_eq_true_eq]
        at henabled
      exact henabled.2.2
    exact (enabledPulses_gesture heffects).mpr fun hoff => hdoze hoff.1
  · exact enabledPulses_of_nil heffects

section Events

variable [LT F] [DecidableLT F]

theorem effects_proximityChanged (s : State F) (values : List F) (timestamp : Int64) :
    (s.proximityChanged m values timestamp).effects = s.effects := by
  cases values with
  | nil => rfl
  | cons value values =>
    cases hready : s.mProximitySensor.mReady with
    | true =>
      rw [proximityChanged_ready hready]
      split
      · rfl
      · exact effects_handleProximity _ timestamp
    | false =>
      rw [proximityChanged_unready hready]
      exact effects_onProximityInit _ _ timestamp

variable [Neg F] [OfScientific F]

theorem effects_orientationChanged (s : State F) (input : OrientationInput) (values : List F)
    (clock : Clock) : (s.orientationChanged m input values clock).effects =
      if (s.mOrientationSensor.onSensorChanged m input values).2 && !s.mProximityNear then
        ((s.oriented m input values).gesture clock).toList ++ s.effects
      else s.effects := by
  rw [orientationChanged_eq]
  cases (s.mOrientationSensor.onSensorChanged m input values).2 with
  | false => rfl
  | true =>
    rw [Bool.true_and, if_pos rfl, effects_onOrientationEvent]
    show (if s.mProximityNear then _ else _) = _
    cases s.mProximityNear <;> rfl

/-! ## Pulses while the setting is off -/

/-- After `DOZE_ENABLED` was set to 0, an uncovered device is told its orientation, a gesture that
was armed before matches it, and a pulse is due. -/
def FiresSwitchedOff (m : SensorManager F) (s : State F) : Event F → Prop
  | .orientation input values clock =>
    s.dozeEnabled = 0 ∧ s.mProximityNear = false ∧
      (s.mOrientationSensor.onSensorChanged m input values).2 = true ∧
      (s.oriented m input values).pulseArmed = true ∧ s.pulseDue clock = true
  | _ => False

theorem enabledPulses_orientationChanged {s : State F} (hs : s.effects = [])
    (input : OrientationInput) (values : List F) (clock : Clock) :
    (s.orientationChanged m input values clock).EnabledPulses ↔
      ¬FiresSwitchedOff m s (.orientation input values clock) := by
  have heffects := effects_orientationChanged (m := m) s input values clock
  rw [hs] at heffects
  show _ ↔ ¬(s.dozeEnabled = 0 ∧ s.mProximityNear = false ∧ _ = true ∧ _ = true ∧ _ = true)
  split at heffects
  · next hcalled =>
    obtain ⟨hevent, hfar⟩ := Bool.and_eq_true_iff.mp hcalled
    rw [enabledPulses_gesture heffects, hevent, show s.mProximityNear = false by simpa using hfar]
    simp only [true_and]
    exact Iff.rfl
  · next hcalled =>
    refine iff_of_true (enabledPulses_of_nil heffects) fun ⟨_, hfar, hevent, _⟩ => hcalled ?_
    rw [hevent, hfar]
    rfl

/-- One event: only an orientation can fire while the setting is off. -/
theorem enabledPulses_step {s s' : State F} {ev : Event F} (h : s.step m ev = some s') :
    s'.EnabledPulses ↔ ¬FiresSwitchedOff m s ev := by
  cases ev with
  | screenOff =>
    cases h
    refine iff_of_true (enabledPulses_of_nil ?_) not_false
    unfold onDisplayOff
    simp only []
    split <;> rfl
  | screenOn => cases h; exact iff_of_true (enabledPulses_of_nil rfl) not_false
  | preferenceChanged key value =>
    cases h
    refine iff_of_true (enabledPulses_of_nil ?_) not_false
    cases key <;> rfl
  | dozeEnabledChanged value => cases h; exact iff_of_true (enabledPulses_of_nil rfl) not_false
  | proximity values timestamp =>
    obtain ⟨_, h⟩ := Option.ite_none_right_eq_some.mp h
    cases h
    exact iff_of_true (enabledPulses_of_nil (effects_proximityChanged _ values timestamp)) not_false
  | orientation input values clock =>
    obtain ⟨_, h⟩ := Option.ite_none_right_eq_some.mp h
    cases h
    exact enabledPulses_orientationChanged (s := { s with effects := [] }) rfl input values clock
  | pickUp values clock =>
    obtain ⟨_, h⟩ := Option.ite_none_right_eq_some.mp h
    refine iff_of_true ?_ not_false
    obtain ⟨t, u, _, _, ht, hu, _, _, hs'⟩ := pickUpChanged_cases h
    unfold EnabledPulses
    rw [hs']
    obtain rfl | rfl := hu
    · exact enabledPulses_of_nil ht
    · exact enabledPulses_onPickUpEvent ht clock

/-- In every run, no pulse is broadcast while the setting is off exactly when no armed gesture
fires then. -/
theorem enabledPulses_iff (m : SensorManager F) (handWave pickUp pocket proximityWake : Bool)
    (dozeEnabled : Int) (isInteractive : Bool) (es : List (Event F)) :
    let start := (onCreate handWave pickUp pocket proximityWake dozeEnabled).onStartCommand m
      isInteractive
    Always EnabledPulses (step m) start es ↔
      AllMeet (fun s ev => ¬FiresSwitchedOff m s ev) (step m) start es :=
  always_iff_allMeet (fun _ => True) (fun _ _ _ _ _ _ => trivial)
    (fun _ _ _ _ h => enabledPulses_step h) trivial

/-- A hand wave arms the gesture, the setting is switched off, and the orientation arrives. -/
theorem pulse_switched_off : ¬∀ (m : SensorManager ℚ)
    (handWave pickUp pocket proximityWake : Bool) (dozeEnabled : Int) (isInteractive : Bool)
    (es : List (Event ℚ)), Always EnabledPulses (step m)
      ((onCreate handWave pickUp pocket proximityWake dozeEnabled).onStartCommand m isInteractive)
      es := by
  intro h
  have hrun := h axisSensors true false false false 1 true
    [.screenOff, .proximity [5] 0, .proximity [0] 10, .proximity [5] 20, .dozeEnabledChanged 0,
      .orientation .accelerometer [0, 0, 9.8] ⟨500, 500⟩,
      .orientation .magneticField [0, 20, -40] ⟨500, 500⟩]
  have hpulse : EnabledPulses _ :=
    (((((((hrun _ rfl).2 _ rfl).2 _ rfl).2 _ rfl).2 _ rfl).2 _ rfl).2 _ rfl).1
  exact hpulse 0 (by decide +kernel) rfl

end Events

end State
end Doze
end Huashan
