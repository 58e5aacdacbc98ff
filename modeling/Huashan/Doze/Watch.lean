import Huashan.Doze.Monitor

/-!
# Huashan.Doze.Watch

Between `SCREEN_OFF` and `SCREEN_ON`, with the pick-up gesture and all sensors.

`watched_always`: while the device lies uncovered, exactly one of the orientation and the pick-up
sensor is enabled, and while it is covered neither is.
-/

namespace Huashan
namespace Doze

/-- The device has all three sensors. -/
structure SensorManager.Complete {F : Type} (m : SensorManager F) : Prop where
  accelerometer : m.hasAccelerometer = true
  magneticField : m.hasMagneticField = true
  proximity : m.hasProximity = true

namespace State

variable {F : Type} {m : SensorManager F}

theorem present_of_complete (hm : m.Complete) (s : State F) : s.Present m where
  orientation := fun _ => by rw [hm.accelerometer, hm.magneticField]; rfl
  pickUp := fun _ => hm.accelerometer
  proximity := fun _ => hm.proximity

/-- What the last reading of the proximity sensor asks for, once there is one. -/
def Watched (s : State F) : Prop :=
  ∀ near, s.proximityReport = some near →
    if near then s.mOrientationSensor.mEnabled = false ∧ s.mPickUpSensor.mEnabled = false
    else (s.mOrientationSensor.mEnabled ^^ s.mPickUpSensor.mEnabled) = true

/-- What the sensor events keep while the screen is off. Before the first reading nothing is
enabled but the proximity sensor, and `mDozeEnabled` is what `onDisplayOff` read. -/
structure Watching (s : State F) : Prop where
  pickUp : s.mPickUpGestureEnabled = true
  doze : s.dozeEnabled ≠ 0
  unread : s.proximityReport = none → s.mProximitySensor.mReady = false ∧
    s.mProximitySensor.mState = false ∧ s.running = (false, false) ∧
    s.isEventPending = false ∧ s.mDozeEnabled = true
  read : ∀ near, s.proximityReport = some near → s.mProximitySensor.mReady = true ∧
    s.mProximitySensor.mState = near ∧ s.mProximityNear = near ∧
    if near then s.running = (false, false)
    else s.running = (true, false) ∨ s.running = (false, true)

theorem Watching.watched {s : State F} (hs : s.Watching) : s.Watched := by
  intro near hnear
  obtain ⟨_, _, _, hrun⟩ := hs.read near hnear
  cases near with
  | true => exact Prod.mk.inj hrun
  | false =>
    obtain hrun | hrun := hrun
    · obtain ⟨ho, hp⟩ := Prod.mk.inj hrun
      rw [if_neg Bool.false_ne_true, ho, hp]
      rfl
    · obtain ⟨ho, hp⟩ := Prod.mk.inj hrun
      rw [if_neg Bool.false_ne_true, ho, hp]
      rfl

/-- The pick-up gesture is on whenever the setting has been read. -/
theorem Watching.isPickUpEnabled {s : State F} (hs : s.Watching) :
    s.getDozeEnabled.isPickUpEnabled = true := by
  simp [State.isPickUpEnabled, getDozeEnabled, hs.pickUp, hs.doze]

/-- After the first reading, the watch depends on `core` and on which sensors are enabled. -/
theorem Watching.of_core {s t : State F} (near : Bool) (hcore : t.core = s.core)
    (hpickUp : s.mPickUpGestureEnabled = true) (hdoze : s.dozeEnabled ≠ 0)
    (hread : s.proximityReport = some near) (hready : s.mProximitySensor.mReady = true)
    (hstate : s.mProximitySensor.mState = near) (hnear : s.mProximityNear = near)
    (hrun : if near then t.running = (false, false)
      else t.running = (true, false) ∨ t.running = (false, true)) : t.Watching := by
  have hproximity : t.mProximitySensor = s.mProximitySensor :=
    eq_of_core (·.mProximitySensor) (fun _ => rfl) hcore
  have hreport : t.proximityReport = some near :=
    (eq_of_core (·.proximityReport) (fun _ => rfl) hcore).trans hread
  constructor
  · exact (eq_of_core (·.mPickUpGestureEnabled) (fun _ => rfl) hcore).trans hpickUp
  · rw [eq_of_core (·.dozeEnabled) (fun _ => rfl) hcore]
    exact hdoze
  · intro h
    cases hreport.symm.trans h
  · intro last h
    cases hreport.symm.trans h
    rw [hproximity]
    exact ⟨hready, hstate, (eq_of_core (·.mProximityNear) (fun _ => rfl) hcore).trans hnear, hrun⟩

/-- What the orientation and the pick-up sensor do keeps the watch if one of them stays on. -/
theorem Watching.of_far {s t : State F} (hs : s.Watching) (hread : s.proximityReport = some false)
    (hcore : t.core = s.core) (hrun : t.running = (true, false) ∨ t.running = (false, true)) :
    t.Watching := by
  obtain ⟨hready, hstate, hnear, _⟩ := hs.read false hread
  exact .of_core false hcore hs.pickUp hs.doze hread hready hstate hnear hrun

/-- One of the two sensors is enabled only while the last reading was far. -/
theorem Watching.far_of_enabled {s : State F} (hs : s.Watching) (h : s.running ≠ (false, false)) :
    s.proximityReport = some false := by
  cases hr : s.proximityReport with
  | none => exact absurd (hs.unread hr).2.2.1 h
  | some near =>
    cases near with
    | true => exact absurd (hs.read true hr).2.2.2 h
    | false => rfl

theorem startProximitySensor_reset (s : State F) :
    (s.setProximitySensor m true true).mProximitySensor.mReady = false ∧
      (s.setProximitySensor m true true).mProximitySensor.mState = false := by
  unfold setProximitySensor ProximitySensor.enable ProximitySensor.reset
  simp only [if_true]
  split <;> exact ⟨rfl, rfl⟩

/-- `onDisplayOff` starts the watch, whatever the state. -/
theorem watching_onDisplayOff (hm : m.Complete) {s : State F}
    (hpickUp : s.mPickUpGestureEnabled = true) (hdoze : s.dozeEnabled ≠ 0)
    (hread : s.proximityReport = none) : (s.onDisplayOff m).Watching := by
  have henabled : s.getDozeEnabled.isPickUpEnabled = true := by
    simp [State.isPickUpEnabled, getDozeEnabled, hpickUp, hdoze]
  let t : State F := { s.getDozeEnabled with mLastPulseTimestamp := 0 }.resetValues
  have hstart : s.onDisplayOff m =
      ((t.setOrientationSensor m false true).setPickUpSensor m false true).setProximitySensor m
        true true := by
    refine if_pos ?_
    rw [show isPickUpEnabled { s.getDozeEnabled with mLastPulseTimestamp := 0 } = true
      from henabled]
    simp
  rw [hstart]
  refine ⟨hpickUp, hdoze, fun _ => ⟨?_, ?_, running_stop (present_of_complete hm t) true, rfl, ?_⟩,
    fun near h => by cases hread.symm.trans h⟩
  · exact (startProximitySensor_reset _).1
  · exact (startProximitySensor_reset _).2
  · exact (Bool.and_eq_true_iff.mp henabled).2

section Events

variable [LT F] [DecidableLT F]

/-- The first reading enables the pick-up sensor if it is far. -/
theorem Watching.firstReading (hm : m.Complete) {s : State F} (hs : s.Watching)
    (hread : s.proximityReport = none) (value : F) (values : List F) (timestamp : Int64) :
    (s.proximityChanged m (value :: values) timestamp).Watching := by
  obtain ⟨hready, _, hrun, hpending, hdoze⟩ := hs.unread hread
  rw [proximityChanged_unready hready]
  generalize decide (value < m.maximumRange) = isNear
  have hcore := congrArg (fun u : State F =>
    { u with mProximitySensor := { u.mProximitySensor with mReady := true } })
    (core_onProximityInit (m := m) (s.reported isNear) isNear timestamp)
  have hinit := running_onProximityInit (m := m) (s := s.reported isNear)
    (present_of_complete hm _) isNear timestamp
  have hpending : (s.reported isNear).isEventPending = false := hpending
  have henabled : (s.reported isNear).isPickUpEnabled = true := by
    simp [State.isPickUpEnabled, reported, hs.pickUp, hdoze]
  rw [hpending, henabled, hm.accelerometer] at hinit
  refine .of_core isNear (s := { s.reported isNear with
    mProximityNear := isNear
    mProximitySensor := { (s.reported isNear).mProximitySensor with mReady := true } })
    hcore hs.pickUp hs.doze rfl rfl rfl rfl ?_
  cases isNear with
  | true => exact hinit.trans hrun
  | false => exact .inr hinit

theorem Watching.proximityChanged (hm : m.Complete) {s : State F} (hs : s.Watching)
    (values : List F) (timestamp : Int64) : (s.proximityChanged m values timestamp).Watching := by
  cases values with
  | nil => exact hs
  | cons value values =>
    cases hread : s.proximityReport with
    | none => exact hs.firstReading hm hread value values timestamp
    | some last =>
      obtain ⟨hready, hstate, hnear, hrun⟩ := hs.read last hread
      rw [proximityChanged_ready hready]
      generalize decide (value < m.maximumRange) = isNear
      rw [hstate]
      split
      · next hsame =>
        cases hsame
        exact .of_core last (s := s.reported last) rfl hs.pickUp hs.doze rfl hready rfl hnear hrun
      · have hcore := core_onProximityEvent (m := m) (s.reported isNear) isNear timestamp
        refine .of_core isNear hcore hs.pickUp hs.doze rfl hready rfl rfl ?_
        cases isNear with
        | true => exact running_handleProximity_near (present_of_complete hm _) timestamp rfl
        | false =>
          obtain hon | hon | ⟨_, hoff⟩ := running_handleProximity_far (m := m)
            (present_of_complete hm { s.reported false with mProximityNear := false }) timestamp rfl
          · rw [hm.accelerometer, hm.magneticField] at hon
            exact .inl hon
          · rw [hm.accelerometer] at hon
            exact .inr hon
          · cases hs.isPickUpEnabled.symm.trans hoff

variable [Neg F] [OfScientific F]

theorem Watching.orientationChanged (hm : m.Complete) {s : State F} (hs : s.Watching)
    (henabled : s.mOrientationSensor.mEnabled = true) (input : OrientationInput)
    (values : List F) (clock : Clock) :
    (s.orientationChanged m input values clock).Watching := by
  have hrunning : s.running ≠ (false, false) := by
    intro h
    cases henabled.symm.trans (Prod.mk.inj h).1
  have hread := hs.far_of_enabled hrunning
  obtain ⟨_, _, hnear, hrun⟩ := hs.read false hread
  refine hs.of_far hread (core_orientationChanged s input values clock) ?_
  rw [orientationChanged_eq]
  split
  · -- the orientation sensor hands over to the pick-up sensor
    have hfar : (s.oriented m input values).mProximityNear = false := hnear
    have hpickUp : (s.oriented m input values).getDozeEnabled.isPickUpEnabled = true :=
      hs.isPickUpEnabled
    rw [running_onOrientationEvent (present_of_complete hm _), hfar, hpickUp, hm.accelerometer]
    exact .inr rfl
  · rw [running_oriented]
    exact hrun

theorem Watching.pickUpChanged (hm : m.Complete) {s s' : State F} (hs : s.Watching)
    (henabled : s.mPickUpSensor.mEnabled = true) {values : List F} {clock : Clock}
    (h : s.pickUpChanged m values clock = some s') : s'.Watching := by
  have hrunning : s.running ≠ (false, false) := by
    intro hoff
    cases henabled.symm.trans (Prod.mk.inj hoff).2
  have hread := hs.far_of_enabled hrunning
  obtain ⟨_, _, _, hrun⟩ := hs.read false hread
  refine hs.of_far hread (core_pickUpChanged h) ?_
  obtain ⟨t, u, htrun, _, _, hu, hs', _⟩ := pickUpChanged_cases h
  rw [hs']
  obtain rfl | rfl := hu
  · rw [htrun]
    exact hrun
  · obtain hevent | hevent := running_onPickUpEvent (present_of_complete hm t) clock
    · rw [hevent, htrun]
      exact hrun
    · rw [hevent, hm.accelerometer]
      exact .inr rfl

theorem Watching.step (hm : m.Complete) {s s' : State F} (hs : s.Watching) {ev : Event F}
    (hev : ev.IsSensor) (h : s.step m ev = some s') : s'.Watching := by
  have hcleared : ({ s with effects := [] } : State F).Watching :=
    ⟨hs.pickUp, hs.doze, hs.unread, hs.read⟩
  cases ev with
  | screenOff => cases hev
  | screenOn => cases hev
  | preferenceChanged key value => cases hev
  | dozeEnabledChanged value => cases hev
  | proximity values timestamp =>
    obtain ⟨_, h⟩ := Option.ite_none_right_eq_some.mp h
    cases h
    exact hcleared.proximityChanged hm values timestamp
  | orientation input values clock =>
    obtain ⟨he, h⟩ := Option.ite_none_right_eq_some.mp h
    cases h
    exact hcleared.orientationChanged hm he input values clock
  | pickUp values clock =>
    obtain ⟨he, h⟩ := Option.ite_none_right_eq_some.mp h
    exact hcleared.pickUpChanged hm he h

/-- After `SCREEN_OFF`, from whatever state: while the setting and the preferences stay as they
are, every run of sensor events keeps the watch. -/
theorem watched_always (hm : m.Complete) {s s' : State F} (hpickUp : s.mPickUpGestureEnabled = true)
    (hdoze : s.dozeEnabled ≠ 0) (hoff : s.step m .screenOff = some s') (es : List (Event F))
    (hes : ∀ ev ∈ es, ev.IsSensor) : Always Watched (step m) s' es := by
  have hs' : s'.Watching := by
    cases hoff
    exact watching_onDisplayOff hm hpickUp hdoze rfl
  exact always_of_invariant_on Watching Event.IsSensor (fun _ _ _ hev hs h => hs.step hm hev h)
    (fun _ hs => hs.watched) hs' hes

/-- The screen goes off, the device is uncovered, covered, and uncovered again after two
seconds. -/
theorem watched_wave :
    let wave : List (Event ℚ) := [.proximity [5] 0, .proximity [0] 10, .proximity [5] 2000000000]
    ∃ s s', (onCreate false true false false 1).step axisSensors .screenOff = some s ∧
      wave.foldlM (step axisSensors) s = some s' ∧ s'.running = (true, false) ∧
      Always Watched (step axisSensors) s wave := by
  refine ⟨_, _, rfl, rfl, rfl, watched_always ⟨rfl, rfl, rfl⟩ rfl Int.one_ne_zero rfl _ ?_⟩
  simp [Event.IsSensor]

end Events

end State
end Doze
end Huashan
