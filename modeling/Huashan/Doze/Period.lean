import Huashan.Doze.Pulse

/-!
# Huashan.Doze.Period

What a screen-off period inherits from earlier ones. Two states that have just handled `SCREEN_ON`
with the same settings are taken through the same events.

`period_iff`: the pulses and wake-ups are the same in both runs, exactly when no orientation is
judged by a pick-up state that is left over and that decides.
-/

namespace Huashan
namespace Doze

variable {F : Type} {m : SensorManager F}

/-! ## Sensors that behave alike -/

/-- An `mState` that is not ready is not read. -/
structure OrientationSensor.Alike (o o' : OrientationSensor F) : Prop where
  mEnabled : o'.mEnabled = o.mEnabled
  mReady : o'.mReady = o.mReady
  mGravity : o'.mGravity = o.mGravity
  mMagnetic : o'.mMagnetic = o.mMagnetic
  mState : o.mReady = true → o'.mState = o.mState

namespace OrientationSensor

theorem Alike.reset {o o' : OrientationSensor F} (h : o.Alike o') : o.reset.Alike o'.reset :=
  ⟨h.mEnabled, rfl, rfl, rfl, nofun⟩

theorem Alike.enable {o o' : OrientationSensor F} (h : o.Alike o') :
    (o.enable m).Alike (o'.enable m) := by
  unfold OrientationSensor.enable
  rw [h.mEnabled]
  split
  · exact ⟨rfl, rfl, rfl, rfl, nofun⟩
  · exact h

theorem Alike.disable {o o' : OrientationSensor F} (h : o.Alike o') :
    (o.disable m).Alike (o'.disable m) := by
  unfold OrientationSensor.disable
  rw [h.mEnabled]
  split
  · exact ⟨rfl, h.mReady, h.mGravity, h.mMagnetic, h.mState⟩
  · exact h

theorem Alike.isFaceDown {o o' : OrientationSensor F} (h : o.Alike o') :
    o'.isFaceDown = o.isFaceDown := by
  unfold OrientationSensor.isFaceDown
  rw [h.mReady]
  cases hr : o.mReady with
  | true => rw [h.mState hr]
  | false => simp

theorem Alike.isVertical {o o' : OrientationSensor F} (h : o.Alike o') :
    o'.isVertical = o.isVertical := by
  unfold OrientationSensor.isVertical
  rw [h.mReady]
  cases hr : o.mReady with
  | true => rw [h.mState hr]
  | false => simp

theorem Alike.onSensorChanged [LT F] [DecidableLT F] [Neg F] [OfScientific F]
    {o o' : OrientationSensor F} (h : o.Alike o') (input : OrientationInput) (values : List F) :
    (o'.onSensorChanged m input values).2 = (o.onSensorChanged m input values).2 ∧
      (o.onSensorChanged m input values).1.Alike (o'.onSensorChanged m input values).1 := by
  obtain ⟨he, hr, hg, hm, hs⟩ := h
  unfold OrientationSensor.onSensorChanged
  split
  · exact ⟨rfl, he, hr, hg, hm, hs⟩
  · cases input with
    | accelerometer =>
      simp only [hm]
      cases o.mMagnetic with
      | none => exact ⟨rfl, he, hr, rfl, rfl, hs⟩
      | some magnetic =>
        simp only []
        cases m.getOrientation values magnetic with
        | none => exact ⟨rfl, he, hr, rfl, rfl, hs⟩
        | some angles => exact ⟨rfl, he, rfl, rfl, rfl, fun _ => rfl⟩
    | magneticField =>
      simp only [hg]
      cases o.mGravity with
      | none => exact ⟨rfl, he, hr, rfl, rfl, hs⟩
      | some gravity =>
        simp only []
        cases m.getOrientation gravity values with
        | none => exact ⟨rfl, he, hr, rfl, rfl, hs⟩
        | some angles => exact ⟨rfl, he, rfl, rfl, rfl, fun _ => rfl⟩

end OrientationSensor

namespace State

/-! ## States that behave alike -/

def swap (s : State F) (o : OrientationSensor F) (mPickUpState : Bool) : State F :=
  { s with mOrientationSensor := o, mPickUpState := mPickUpState }

/-- The states differ in the pick-up state, and in an orientation that is not read. -/
def Alike (s t : State F) : Prop :=
  ∃ o mPickUpState, s.mOrientationSensor.Alike o ∧ t = s.swap o mPickUpState

theorem Alike.ite {c : Prop} [Decidable c] {s t s' t' : State F} (h : c → s.Alike t)
    (h' : ¬c → s'.Alike t') : (if c then s else s').Alike (if c then t else t') := by
  split
  · next hc => exact h hc
  · next hc => exact h' hc

theorem Alike.setOrientationSensor {s t : State F} (h : s.Alike t) (enabled reset : Bool) :
    (s.setOrientationSensor m enabled reset).Alike (t.setOrientationSensor m enabled reset) := by
  obtain ⟨o, p, ho, rfl⟩ := h
  cases enabled <;> cases reset
  · exact ⟨_, p, ho.disable, rfl⟩
  · exact ⟨_, p, ho.reset.disable, rfl⟩
  · exact ⟨_, p, ho.enable, rfl⟩
  · exact ⟨_, p, ho.reset.enable, rfl⟩

theorem Alike.setPickUpSensor {s t : State F} (h : s.Alike t) (enabled reset : Bool) :
    (s.setPickUpSensor m enabled reset).Alike (t.setPickUpSensor m enabled reset) := by
  obtain ⟨o, p, ho, rfl⟩ := h
  cases enabled
  · exact ⟨_, p, ho, rfl⟩
  · exact ⟨_, p, ho.disable, rfl⟩

theorem Alike.handleProximity {s t : State F} (h : s.Alike t) (timestamp : Int64) :
    (s.handleProximity m timestamp).Alike (t.handleProximity m timestamp) := by
  obtain ⟨o, p, ho, rfl⟩ := h
  have hstart : ∀ u : State F, u.mOrientationSensor = s.mOrientationSensor →
      (State.setOrientationSensor m u true false).Alike
        (State.setOrientationSensor m (u.swap o p) true false) := by
    intro u hu
    rw [← hu] at ho
    exact Alike.setOrientationSensor ⟨o, p, ho, rfl⟩ true false
  unfold State.handleProximity
  refine .ite (fun _ => ?_) fun _ => ?_
  · refine .ite (fun _ => ?_) fun _ => ?_
    · exact hstart _ rfl
    · refine .ite (fun _ => ?_) fun _ => ?_
      · exact hstart _ rfl
      · refine .ite (fun _ => ?_) fun _ => ?_
        · exact hstart _ rfl
        · refine .ite (fun _ => ?_) fun _ => ?_
          · exact hstart _ rfl
          · refine .ite (fun _ => ?_) fun _ => ?_
            · refine .setPickUpSensor ?_ true false
              exact ⟨o, p, ho, rfl⟩
            · exact ⟨o, p, ho, rfl⟩
  · refine .setPickUpSensor (.setOrientationSensor ?_ false false) false false
    exact ⟨o, p, ho, rfl⟩

theorem Alike.onProximityInit {s t : State F} (h : s.Alike t) (isNear : Bool) (timestamp : Int64) :
    (s.onProximityInit m isNear timestamp).Alike (t.onProximityInit m isNear timestamp) := by
  obtain ⟨o, p, ho, rfl⟩ := h
  unfold State.onProximityInit
  refine .ite (fun _ => ?_) fun _ => ?_
  · refine .setPickUpSensor ?_ true false
    exact ⟨o, p, ho, rfl⟩
  · exact ⟨o, p, ho, rfl⟩

/-- An analysis that finds the same gesture leaves states that are alike. -/
theorem Alike.analyseDoze {s t : State F} (h : s.Alike t) {clock : Clock}
    (hgesture : t.gesture clock = s.gesture clock) :
    (s.analyseDoze m clock).Alike (t.analyseDoze m clock) := by
  have hlaunch : (s.getDozeEnabled.launchGesture clock).Alike
      (t.getDozeEnabled.launchGesture clock) := by
    have hs : s.getDozeEnabled.gesture clock = s.gesture clock := rfl
    have ht : t.getDozeEnabled.gesture clock = t.gesture clock := rfl
    rw [launchGesture_eq, launchGesture_eq, ht, hgesture, hs]
    obtain ⟨o, p, ho, rfl⟩ := h
    cases s.gesture clock with
    | none => exact ⟨o, p, ho, rfl⟩
    | some e => cases e <;> exact ⟨o, p, ho, rfl⟩
  have hrestore : ((s.getDozeEnabled.launchGesture clock).restorePickUpSensor m).Alike
      ((t.getDozeEnabled.launchGesture clock).restorePickUpSensor m) := by
    obtain ⟨o, p, ho, ht⟩ := hlaunch
    rw [ht]
    refine .ite (fun _ => ?_) fun _ => ⟨o, p, ho, rfl⟩
    exact .setPickUpSensor ⟨o, p, ho, rfl⟩ true false
  obtain ⟨o, p, ho, ht⟩ := hrestore
  exact ⟨o, p, ho, congrArg resetValues ht⟩

/-! ## The gestures of states that are alike -/

/-- With this orientation, being picked up is a pulse and not being picked up is not, and one of
the two does something. -/
def PickUpDecides (s : State F) (clock : Clock) : Prop :=
  s.mPickUpDoze = true ∧ s.mOrientationSensor.isFaceDown = false ∧ s.mHandwaveDoze = false ∧
    (s.mPocketDoze && s.mOrientationSensor.isVertical) = false ∧
    (s.pulseDue clock = true ∨ s.mProximityWake = true)

theorem Alike.pulseArmed_eq_iff {s t : State F} (h : s.Alike t) (hfar : s.mProximityNear = false) :
    t.pulseArmed = s.pulseArmed ↔ ¬(t.mPickUpState ≠ s.mPickUpState ∧ s.mPickUpDoze = true ∧
      s.mOrientationSensor.isFaceDown = false ∧ s.mHandwaveDoze = false ∧
      (s.mPocketDoze && s.mOrientationSensor.isVertical) = false) := by
  obtain ⟨o, p, ho, rfl⟩ := h
  simp only [pulseArmed, swap, ho.isFaceDown, ho.isVertical, hfar]
  generalize s.mOrientationSensor.isFaceDown = faceDown
  generalize (s.mPocketDoze && s.mOrientationSensor.isVertical) = pocket
  cases s.mPickUpDoze with
  | false => simp
  | true =>
    cases faceDown with
    | true => cases p <;> cases s.mPickUpState <;> simp
    | false =>
      cases s.mHandwaveDoze with
      | true => simp
      | false => cases pocket <;> simp

theorem Alike.gesture_eq_iff {s t : State F} (h : s.Alike t) (clock : Clock) :
    t.gesture clock = s.gesture clock ↔ t.pulseArmed = s.pulseArmed ∨
      (s.pulseDue clock = false ∧
        (s.mProximityWake && !s.mOrientationSensor.isFaceDown) = false) := by
  obtain ⟨o, p, ho, rfl⟩ := h
  have hdue : (s.swap o p).pulseDue clock = s.pulseDue clock := rfl
  have hwake : (s.swap o p).wakeArmed =
      (!(s.swap o p).pulseArmed && (s.mProximityWake && !s.mOrientationSensor.isFaceDown)) := by
    rw [← ho.isFaceDown, ← Bool.and_assoc]
    rfl
  have hwake' : s.wakeArmed =
      (!s.pulseArmed && (s.mProximityWake && !s.mOrientationSensor.isFaceDown)) :=
    Bool.and_assoc _ _ _
  unfold gesture
  rw [hdue, hwake, hwake']
  generalize (s.mProximityWake && !s.mOrientationSensor.isFaceDown) = wake
  cases (s.swap o p).pulseArmed <;> cases s.pulseArmed <;> cases s.pulseDue clock <;>
    cases wake <;> simp [swap]

/-- An uncovered device is judged differently only by a pick-up state that differs and decides. -/
theorem Alike.gesture_eq_iff_not {s t : State F} (h : s.Alike t) (hfar : s.mProximityNear = false)
    (clock : Clock) : t.gesture clock = s.gesture clock ↔
      ¬(t.mPickUpState ≠ s.mPickUpState ∧ s.PickUpDecides clock) := by
  rw [h.gesture_eq_iff clock, h.pulseArmed_eq_iff hfar]
  unfold PickUpDecides
  cases s.mOrientationSensor.isFaceDown <;> cases s.pulseDue clock <;>
    cases s.mProximityWake <;> simp

theorem Alike.gesture_of_pickUpState {s t : State F} (h : s.Alike t)
    (hp : t.mPickUpState = s.mPickUpState) (clock : Clock) :
    t.gesture clock = s.gesture clock := by
  refine (h.gesture_eq_iff clock).mpr (.inl ?_)
  obtain ⟨o, p, ho, rfl⟩ := h
  have hp : p = s.mPickUpState := hp
  simp only [pulseArmed, swap, ho.isFaceDown, ho.isVertical, hp]

/-! ## Sensor events -/

theorem Alike.onOrientationEvent {s t : State F} (h : s.Alike t) {clock : Clock}
    (hgesture : s.mProximityNear = false → t.gesture clock = s.gesture clock) :
    (s.onOrientationEvent m clock).Alike (t.onOrientationEvent m clock) := by
  have hoff := h.setOrientationSensor (m := m) false false
  have hnear : (t.setOrientationSensor m false false).mProximityNear = s.mProximityNear := by
    obtain ⟨o, p, _, rfl⟩ := h
    rfl
  unfold State.onOrientationEvent handleOrientation
  rw [hnear]
  refine .ite (fun hfar => ?_) fun _ => hoff
  refine hoff.analyseDoze ?_
  rw [gesture_setOrientationSensor, gesture_setOrientationSensor]
  have hfar : (!s.mProximityNear) = true := hfar
  exact hgesture (by simpa using hfar)

/-- The pick-up state has just been read from sensors in the same state. -/
theorem Alike.onPickUpEvent {s t : State F} (h : s.Alike t) (clock : Clock) :
    (s.onPickUpEvent m clock).Alike (t.onPickUpEvent m clock) := by
  obtain ⟨o, p, ho, rfl⟩ := h
  have hanalyse : ∀ u : State F, u.mOrientationSensor = s.mOrientationSensor →
      (u.analyseDoze m clock).Alike ((u.swap o u.mPickUpState).analyseDoze m clock) := by
    intro u hu
    rw [← hu] at ho
    have hu : u.Alike (u.swap o u.mPickUpState) := ⟨o, _, ho, rfl⟩
    exact hu.analyseDoze (hu.gesture_of_pickUpState rfl clock)
  unfold State.onPickUpEvent handlePickUp
  exact .ite (fun _ => hanalyse _ rfl) fun _ => ⟨o, _, ho, rfl⟩

/-! ## Before the first reading -/

/-- The same preferences and the same `DOZE_ENABLED`. -/
structure SameSettings (s t : State F) : Prop where
  handWave : t.mHandwaveGestureEnabled = s.mHandwaveGestureEnabled
  pickUp : t.mPickUpGestureEnabled = s.mPickUpGestureEnabled
  pocket : t.mPocketGestureEnabled = s.mPocketGestureEnabled
  proximityWake : t.mProximityWakeEnabled = s.mProximityWakeEnabled
  dozeEnabled : t.dozeEnabled = s.dozeEnabled

/-- Of the sensors at most the proximity sensor is on, and it will overwrite what else differs. -/
def Unread (s t : State F) : Prop :=
  ∃ near stowed, s.Alike { t with mProximityNear := near, mLastStowedTimestamp := stowed } ∧
    s.mProximitySensor.mReady = false ∧ s.running = (false, false)

/-- How two runs of the same events go on from `SCREEN_ON`. -/
inductive Paired (s t : State F) : Prop where
  | resting (settings : s.SameSettings t) (effects : t.effects = s.effects)
      (running : s.running = (false, false)) (running' : t.running = (false, false))
      (proximity : s.mProximitySensor.mEnabled = false)
      (proximity' : t.mProximitySensor.mEnabled = false)
  | unread (h : s.Unread t)
  | watching (h : s.Alike t)

theorem Alike.sameSettings {s t : State F} (h : s.Alike t) : s.SameSettings t := by
  obtain ⟨o, p, _, rfl⟩ := h
  exact ⟨rfl, rfl, rfl, rfl, rfl⟩

theorem Paired.sameSettings {s t : State F} (h : s.Paired t) : s.SameSettings t := by
  cases h with
  | resting settings => exact settings
  | unread h =>
    obtain ⟨_, _, h, _⟩ := h
    obtain ⟨hw, hp, hk, hx, hd⟩ := h.sameSettings
    exact ⟨hw, hp, hk, hx, hd⟩
  | watching h => exact h.sameSettings

theorem Alike.effects {s t : State F} (h : s.Alike t) : t.effects = s.effects := by
  obtain ⟨o, p, _, rfl⟩ := h
  rfl

theorem Paired.effects {s t : State F} (h : s.Paired t) : t.effects = s.effects := by
  cases h with
  | resting _ effects => exact effects
  | unread h =>
    obtain ⟨_, _, h, _⟩ := h
    exact h.effects
  | watching h => exact h.effects

/-- Two runs that go on in pairs have the same sensors on. -/
theorem Paired.mEnabled {s t : State F} (h : s.Paired t) :
    t.running = s.running ∧ t.mProximitySensor.mEnabled = s.mProximitySensor.mEnabled := by
  have halike : ∀ {u : State F}, s.Alike u →
      u.running = s.running ∧ u.mProximitySensor.mEnabled = s.mProximitySensor.mEnabled := by
    rintro u ⟨o, p, ho, rfl⟩
    exact ⟨Prod.ext ho.mEnabled rfl, rfl⟩
  cases h with
  | resting _ _ running running' proximity proximity' =>
    exact ⟨running'.trans running.symm, proximity'.trans proximity.symm⟩
  | unread h =>
    obtain ⟨_, _, h, _⟩ := h
    have hmEnabled := halike h
    exact hmEnabled
  | watching h => exact halike h

/-- With one of the two sensors on, the states are alike. -/
theorem Paired.alike_of_running {s t : State F} (h : s.Paired t)
    (hrunning : s.running ≠ (false, false)) : s.Alike t := by
  cases h with
  | resting _ _ running => exact absurd running hrunning
  | unread h =>
    obtain ⟨_, _, _, _, running⟩ := h
    exact absurd running hrunning
  | watching h => exact h

theorem running_ne_of_orientation {s : State F} (he : s.mOrientationSensor.mEnabled = true) :
    s.running ≠ (false, false) := by
  intro running
  cases he.symm.trans (Prod.mk.inj running).1

theorem running_ne_of_pickUp {s : State F} (he : s.mPickUpSensor.mEnabled = true) :
    s.running ≠ (false, false) := by
  intro running
  cases he.symm.trans (Prod.mk.inj running).2

/-- A change of both states that the relations do not look at. -/
theorem Paired.map {s t : State F} (h : s.Paired t) (f : State F → State F)
    (hswap : ∀ (u : State F) o p, f (u.swap o p) = (f u).swap o p)
    (hstowed : ∀ (u : State F) near stowed,
      f { u with mProximityNear := near, mLastStowedTimestamp := stowed } =
        { f u with mProximityNear := near, mLastStowedTimestamp := stowed })
    (hsensors : ∀ u, (f u).mOrientationSensor = u.mOrientationSensor ∧
      (f u).mPickUpSensor = u.mPickUpSensor ∧ (f u).mProximitySensor = u.mProximitySensor)
    (hresting : s.SameSettings t → t.effects = s.effects →
      (f s).SameSettings (f t) ∧ (f t).effects = (f s).effects) : (f s).Paired (f t) := by
  have halike : ∀ {u v : State F}, u.Alike v → (f u).Alike (f v) := by
    rintro u v ⟨o, p, ho, rfl⟩
    rw [← (hsensors u).1] at ho
    exact ⟨o, p, ho, hswap u o p⟩
  have hrun : ∀ u, (f u).running = u.running := by
    intro u
    unfold running
    rw [(hsensors u).1, (hsensors u).2.1]
  cases h with
  | resting settings effects running running' proximity proximity' =>
    obtain ⟨settings, effects⟩ := hresting settings effects
    refine .resting settings effects ((hrun s).trans running) ((hrun t).trans running') ?_ ?_
    · rw [(hsensors s).2.2]
      exact proximity
    · rw [(hsensors t).2.2]
      exact proximity'
  | unread h =>
    obtain ⟨near, stowed, h, hready, hoff⟩ := h
    refine .unread ⟨near, stowed, hstowed t near stowed ▸ halike h, ?_, (hrun s).trans hoff⟩
    rw [(hsensors s).2.2]
    exact hready
  | watching h => exact .watching (halike h)

/-- `step` forgets the effects of the event before. -/
theorem Paired.clear {s t : State F} (h : s.Paired t) :
    ({ s with effects := [] } : State F).Paired { t with effects := [] } :=
  h.map (fun u => { u with effects := [] }) (fun _ _ _ => rfl) (fun _ _ _ => rfl)
    (fun _ => ⟨rfl, rfl, rfl⟩) fun settings _ => ⟨⟨settings.handWave, settings.pickUp,
      settings.pocket, settings.proximityWake, settings.dozeEnabled⟩, rfl⟩

/-! ## The screen -/

/-- One of the gestures that `onDisplayOff` asks for is on. -/
def gestureOn (s : State F) : Bool :=
  s.isHandwaveEnabled || s.isPickUpEnabled || s.isPocketEnabled || s.isProximityWakeEnabled

/-- With a gesture on, the sensors are reset and the proximity sensor is started. -/
theorem onDisplayOff_eq {s : State F} (hs : s.Present m) :
    s.onDisplayOff m = if s.getDozeEnabled.gestureOn then
      { s.getDozeEnabled.resetValues with
        mOrientationSensor := { s.mOrientationSensor.reset with mEnabled := false }
        mPickUpSensor := ⟨false, false, .pickUpUnknown⟩
        mProximitySensor := ⟨m.hasProximity, false, false⟩
        mLastPulseTimestamp := 0 }
      else { s.getDozeEnabled with mLastPulseTimestamp := 0 } := by
  have ho : s.mOrientationSensor.reset.disable m =
      { s.mOrientationSensor.reset with mEnabled := false } := by
    have hpresent := hs.orientation
    unfold OrientationSensor.disable OrientationSensor.reset
    cases he : s.mOrientationSensor.mEnabled with
    | true => simp [Bool.and_eq_true_iff.mp (hpresent he)]
    | false => rfl
  have hp : s.mPickUpSensor.reset.disable m = ⟨false, false, .pickUpUnknown⟩ := by
    have hpresent := hs.pickUp
    unfold PickUpSensor.disable PickUpSensor.reset
    cases he : s.mPickUpSensor.mEnabled with
    | true => simp [hpresent he]
    | false => rfl
  have hx : s.mProximitySensor.reset.enable m = ⟨m.hasProximity, false, false⟩ := by
    have hpresent := hs.proximity
    unfold ProximitySensor.enable ProximitySensor.reset
    cases he : s.mProximitySensor.mEnabled with
    | true => rw [hpresent he]; rfl
    | false => cases m.hasProximity <;> rfl
  rw [← ho, ← hp, ← hx]
  rfl

theorem SameSettings.gestureOn {s t : State F} (h : s.SameSettings t) :
    t.getDozeEnabled.gestureOn = s.getDozeEnabled.gestureOn := by
  simp only [State.gestureOn, isHandwaveEnabled, State.isPickUpEnabled, isPocketEnabled,
    isProximityWakeEnabled, getDozeEnabled, h.handWave, h.pickUp, h.pocket, h.proximityWake,
    h.dozeEnabled]

/-- `SCREEN_OFF` resets all that is read later, except the pick-up state. -/
theorem Paired.onDisplayOff {s t : State F} (h : s.Paired t) (hs : s.Present m)
    (ht : t.Present m) (hdisplay : t.displayOn = s.displayOn)
    (hreport : t.proximityReport = s.proximityReport) :
    (s.onDisplayOff m).Paired (t.onDisplayOff m) := by
  have settings := h.sameSettings
  rw [onDisplayOff_eq hs, onDisplayOff_eq ht, settings.gestureOn]
  split
  · refine .unread ⟨s.mProximityNear, s.mLastStowedTimestamp,
      ⟨{ t.mOrientationSensor.reset with mEnabled := false }, t.mPickUpState,
        ⟨rfl, rfl, rfl, rfl, nofun⟩, ?_⟩, rfl, rfl⟩
    simp only [swap, getDozeEnabled, resetValues, settings.handWave, settings.pickUp,
      settings.pocket, settings.proximityWake, settings.dozeEnabled, h.effects, hdisplay, hreport]
  · refine h.map (fun u => { u.getDozeEnabled with mLastPulseTimestamp := 0 }) (fun _ _ _ => rfl)
      (fun _ _ _ => rfl) (fun _ => ⟨rfl, rfl, rfl⟩) fun settings effects => ⟨?_, effects⟩
    exact ⟨settings.handWave, settings.pickUp, settings.pocket, settings.proximityWake,
      settings.dozeEnabled⟩

theorem Paired.onDisplayOn {s t : State F} (h : s.Paired t) (hs : s.Orderly m)
    (ht : t.Orderly m) :
    ({ s.onDisplayOn m with displayOn := true } : State F).Paired
      { t.onDisplayOn m with displayOn := true } := by
  obtain ⟨running, proximity⟩ := hs.onDisplayOn.asleep rfl
  obtain ⟨running', proximity'⟩ := ht.onDisplayOn.asleep rfl
  have settings := h.sameSettings
  exact .resting ⟨settings.handWave, settings.pickUp, settings.pocket, settings.proximityWake,
    settings.dozeEnabled⟩ h.effects running running' proximity proximity'

section Events

variable [LT F] [DecidableLT F]

theorem Alike.proximityChanged {s t : State F} (h : s.Alike t) (values : List F)
    (timestamp : Int64) :
    (s.proximityChanged m values timestamp).Alike (t.proximityChanged m values timestamp) := by
  obtain ⟨o, p, ho, rfl⟩ := h
  cases values with
  | nil => exact ⟨o, p, ho, rfl⟩
  | cons value values =>
    have hreported : ∀ isNear, (s.reported isNear).Alike ((s.swap o p).reported isNear) :=
      fun _ => ⟨o, p, ho, rfl⟩
    cases hready : s.mProximitySensor.mReady with
    | true =>
      rw [proximityChanged_ready hready, proximityChanged_ready (s := s.swap o p) hready]
      refine .ite (fun _ => hreported _) fun _ => ?_
      refine .handleProximity ?_ timestamp
      exact ⟨o, p, ho, rfl⟩
    | false =>
      rw [proximityChanged_unready hready, proximityChanged_unready (s := s.swap o p) hready]
      obtain ⟨o', p', ho', ht⟩ := (hreported (decide (value < m.maximumRange))).onProximityInit
        (m := m) (decide (value < m.maximumRange)) timestamp
      rw [ht]
      exact ⟨o', p', ho', rfl⟩

theorem Unread.firstReading {s t : State F} (h : s.Unread t) (value : F) (values : List F)
    (timestamp : Int64) : (s.proximityChanged m (value :: values) timestamp).Alike
      (t.proximityChanged m (value :: values) timestamp) := by
  obtain ⟨near, stowed, h, hready, _⟩ := h
  have hready' : t.mProximitySensor.mReady = false := by
    obtain ⟨o, p, _, ht⟩ := h
    exact (congrArg (·.mProximitySensor.mReady) ht).trans hready
  have hchanged := h.proximityChanged (m := m) (value :: values) timestamp
  rw [proximityChanged_unready (s := { t with
    mProximityNear := near, mLastStowedTimestamp := stowed }) hready'] at hchanged
  rw [proximityChanged_unready hready']
  exact hchanged

variable [Neg F] [OfScientific F]

theorem Alike.oriented {s t : State F} (h : s.Alike t) (input : OrientationInput)
    (values : List F) : (s.oriented m input values).Alike (t.oriented m input values) := by
  obtain ⟨o, p, ho, rfl⟩ := h
  exact ⟨_, p, (ho.onSensorChanged input values).2, rfl⟩

theorem Alike.orientationChanged {s t : State F} (h : s.Alike t) {input : OrientationInput}
    {values : List F} {clock : Clock}
    (hgesture : (s.mOrientationSensor.onSensorChanged m input values).2 = true →
      s.mProximityNear = false →
      (t.oriented m input values).gesture clock = (s.oriented m input values).gesture clock) :
    (s.orientationChanged m input values clock).Alike
      (t.orientationChanged m input values clock) := by
  have hcalled : (t.mOrientationSensor.onSensorChanged m input values).2 =
      (s.mOrientationSensor.onSensorChanged m input values).2 := by
    obtain ⟨o, p, ho, rfl⟩ := h
    exact (ho.onSensorChanged input values).1
  rw [orientationChanged_eq, orientationChanged_eq, hcalled]
  exact .ite (fun hevent => (h.oriented input values).onOrientationEvent (hgesture hevent))
    fun _ => h.oriented input values

theorem Alike.pickedUp {s t : State F} (h : s.Alike t) (x y : F) (clock : Clock) :
    (s.pickedUp m x y clock).Alike (t.pickedUp m x y clock) := by
  obtain ⟨o, p, ho, rfl⟩ := h
  refine .ite (fun _ => ?_) fun _ => ⟨o, p, ho, rfl⟩
  refine .onPickUpEvent ?_ clock
  exact ⟨o, p, ho, rfl⟩

theorem Alike.pickUpChanged {s t s' t' : State F} (h : s.Alike t) {values : List F} {clock : Clock}
    (hs' : s.pickUpChanged m values clock = some s')
    (ht' : t.pickUpChanged m values clock = some t') : s'.Alike t' := by
  match values with
  | [] => cases hs'; cases ht'; exact h
  | [x] => cases hs'
  | [x, y] => cases hs'
  | x :: y :: z :: values =>
    rw [pickUpChanged_eq] at hs' ht'
    cases hs'
    cases ht'
    obtain ⟨o, p, ho, ht⟩ := h.pickedUp (m := m) x y clock
    rw [ht]
    exact .ite (fun _ => ⟨o, _, ho, rfl⟩) fun _ => ⟨o, p, ho, rfl⟩

/-- In the two states, an uncovered device is told its orientation, and pick-up states that differ
decide between a pulse and none. -/
def JudgedByLeftover (m : SensorManager F) (s : State F × State F) : Event F → Prop
  | .orientation input values clock =>
    (s.1.mOrientationSensor.onSensorChanged m input values).2 = true ∧
      s.1.mProximityNear = false ∧ s.2.mPickUpState ≠ s.1.mPickUpState ∧
      (s.1.oriented m input values).PickUpDecides clock
  | _ => False

/-- One event without such a judgement. -/
theorem Paired.handle {s t s' t' : State F} (h : s.Paired t) (hs : s.Orderly m)
    (ht : t.Orderly m) {ev : Event F} (hev : ¬JudgedByLeftover m (s, t) ev)
    (hs' : s.handle m ev = some s') (ht' : t.handle m ev = some t') : s'.Paired t' := by
  cases ev with
  | screenOff =>
    cases hs'
    cases ht'
    have hclear := h.map (fun u => { u with displayOn := false, proximityReport := none })
      (fun _ _ _ => rfl) (fun _ _ _ => rfl) (fun _ => ⟨rfl, rfl, rfl⟩)
      fun settings effects => ⟨⟨settings.handWave, settings.pickUp, settings.pocket,
        settings.proximityWake, settings.dozeEnabled⟩, effects⟩
    exact hclear.onDisplayOff (hs.present.of_running rfl rfl) (ht.present.of_running rfl rfl)
      rfl rfl
  | screenOn => cases hs'; cases ht'; exact h.onDisplayOn hs ht
  | preferenceChanged key value =>
    cases hs'
    cases ht'
    refine h.map (fun u => u.onSharedPreferenceChanged key value) ?_ ?_ ?_ ?_
    · intro u o p; cases key <;> rfl
    · intro u near stowed; cases key <;> rfl
    · intro u; cases key <;> exact ⟨rfl, rfl, rfl⟩
    · intro settings effects
      obtain ⟨hw, hp, hk, hx, hd⟩ := settings
      refine ⟨?_, by cases key <;> exact effects⟩
      cases key with
      | gestureHandWave => exact ⟨rfl, hp, hk, hx, hd⟩
      | gesturePickUp => exact ⟨hw, rfl, hk, hx, hd⟩
      | gesturePocket => exact ⟨hw, hp, rfl, hx, hd⟩
      | proximityWakeEnable => exact ⟨hw, hp, hk, rfl, hd⟩
      | other => exact ⟨hw, hp, hk, hx, hd⟩
  | dozeEnabledChanged value =>
    cases hs'
    cases ht'
    exact h.map (fun u => { u with dozeEnabled := value }) (fun _ _ _ => rfl) (fun _ _ _ => rfl)
      (fun _ => ⟨rfl, rfl, rfl⟩) fun settings effects => ⟨⟨settings.handWave, settings.pickUp,
        settings.pocket, settings.proximityWake, rfl⟩, effects⟩
  | proximity values timestamp =>
    obtain ⟨he, hs'⟩ := Option.ite_none_right_eq_some.mp hs'
    obtain ⟨_, ht'⟩ := Option.ite_none_right_eq_some.mp ht'
    cases hs'
    cases ht'
    cases h with
    | resting _ _ _ _ proximity => cases he.symm.trans proximity
    | unread h =>
      cases values with
      | nil => exact .unread h
      | cons value values => exact .watching (h.firstReading value values timestamp)
    | watching h => exact .watching (h.proximityChanged values timestamp)
  | orientation input values clock =>
    obtain ⟨he, hs'⟩ := Option.ite_none_right_eq_some.mp hs'
    obtain ⟨_, ht'⟩ := Option.ite_none_right_eq_some.mp ht'
    cases hs'
    cases ht'
    have halike := h.alike_of_running (running_ne_of_orientation he)
    refine .watching (halike.orientationChanged fun hevent hfar => ?_)
    refine ((halike.oriented input values).gesture_eq_iff_not hfar clock).mpr ?_
    rintro ⟨hdiff, hdecides⟩
    refine hev ⟨hevent, hfar, ?_, hdecides⟩
    exact hdiff
  | pickUp values clock =>
    obtain ⟨he, hs'⟩ := Option.ite_none_right_eq_some.mp hs'
    obtain ⟨_, ht'⟩ := Option.ite_none_right_eq_some.mp ht'
    have halike := h.alike_of_running (running_ne_of_pickUp he)
    exact .watching (halike.pickUpChanged hs' ht')

/-- A judgement by a leftover shows. -/
theorem Paired.effects_ne {s t s' t' : State F} (h : s.Paired t) (hnil : s.effects = [])
    (ev : Event F) (hev : JudgedByLeftover m (s, t) ev) (hs' : s.handle m ev = some s')
    (ht' : t.handle m ev = some t') : t'.effects ≠ s'.effects := by
  cases ev with
  | screenOff => cases hev
  | screenOn => cases hev
  | preferenceChanged key value => cases hev
  | dozeEnabledChanged value => cases hev
  | proximity values timestamp => cases hev
  | pickUp values clock => cases hev
  | orientation input values clock =>
    obtain ⟨he, hs'⟩ := Option.ite_none_right_eq_some.mp hs'
    obtain ⟨_, ht'⟩ := Option.ite_none_right_eq_some.mp ht'
    cases hs'
    cases ht'
    have halike := h.alike_of_running (running_ne_of_orientation he)
    obtain ⟨hevent, hfar, hdiff, hdecides⟩ := hev
    have hgesture := ((halike.oriented (m := m) input values).gesture_eq_iff_not hfar clock).not.mpr
      (not_not.mpr ⟨hdiff, hdecides⟩)
    have hboth : (t.mOrientationSensor.onSensorChanged m input values).2 = true ∧
        t.mProximityNear = false := by
      obtain ⟨o, p, ho, rfl⟩ := halike
      exact ⟨(ho.onSensorChanged input values).1.trans hevent, hfar⟩
    rw [effects_orientationChanged, effects_orientationChanged, hevent, hboth.1, hfar, hboth.2,
      halike.effects, hnil]
    intro heffects
    refine hgesture ?_
    revert heffects
    cases (t.oriented m input values).gesture clock <;>
      cases (s.oriented m input values).gesture clock <;> simp

/-- The last event did the same in both runs. -/
def SameEffects (s : State F × State F) : Prop := s.2.effects = s.1.effects

/-- The state has just handled a `SCREEN_ON`, after some run of the service. -/
def AfterScreenOn (m : SensorManager F) (s : State F) : Prop :=
  ∃ handWave pickUp pocket proximityWake dozeEnabled isInteractive es, ∃ s₀ : State F,
    Steps (step m) ((onCreate handWave pickUp pocket proximityWake dozeEnabled).onStartCommand m
      isInteractive) es s₀ ∧ s₀.step m .screenOn = some s

theorem AfterScreenOn.orderly {s : State F} (hs : AfterScreenOn m s) :
    s.Orderly m ∧ s.displayOn = true ∧ s.effects = [] := by
  obtain ⟨hw, hp, hk, hx, hd, hi, es, s₀, hsteps, h⟩ := hs
  have hs₀ : s₀.Orderly m := hsteps.invariant (fun _ _ _ hs h => Orderly.step hs h)
    (orderly_start hw hp hk hx hd hi)
  refine ⟨hs₀.step h, ?_⟩
  cases h
  exact ⟨rfl, rfl⟩

/-- The invariant of the two runs. -/
structure PairedRun (m : SensorManager F) (st : State F × State F) : Prop where
  paired : st.1.Paired st.2
  left : st.1.Orderly m
  right : st.2.Orderly m

theorem AfterScreenOn.pairedRun {s t : State F} (hs : AfterScreenOn m s) (ht : AfterScreenOn m t)
    (settings : s.SameSettings t) : PairedRun m (s, t) := by
  obtain ⟨hs, hon, heffects⟩ := hs.orderly
  obtain ⟨ht, hon', heffects'⟩ := ht.orderly
  obtain ⟨running, proximity⟩ := hs.asleep hon
  obtain ⟨running', proximity'⟩ := ht.asleep hon'
  exact ⟨.resting settings (heffects'.trans heffects.symm) running running' proximity proximity',
    hs, ht⟩

theorem PairedRun.step {st st' : State F × State F} (h : PairedRun m st) {ev : Event F}
    (hev : ¬JudgedByLeftover m st ev) (hst' : lockstep (State.step m) st ev = some st') :
    PairedRun m st' := by
  obtain ⟨h, hs, ht⟩ := h
  obtain ⟨hs', ht'⟩ := lockstep_eq_some.mp hst'
  refine ⟨?_, hs.step hs', ht.step ht'⟩
  exact h.clear.handle ⟨hs.exclusive, hs.proximity, hs.asleep⟩
    ⟨ht.exclusive, ht.proximity, ht.asleep⟩ (fun hjudged => hev hjudged) hs' ht'

theorem PairedRun.sameEffects_iff {st st' : State F × State F} (h : PairedRun m st) {ev : Event F}
    (hst' : lockstep (State.step m) st ev = some st') :
    SameEffects st' ↔ ¬JudgedByLeftover m st ev := by
  refine ⟨fun hsame hjudged => ?_, fun hev => (h.step hev hst').paired.effects⟩
  obtain ⟨hs', ht'⟩ := lockstep_eq_some.mp hst'
  exact h.paired.clear.effects_ne rfl (m := m) ev hjudged hs' ht' hsame

/-- From `SCREEN_ON` with the same settings, two runs of the same events pulse and wake alike
exactly when no event is judged by a leftover. -/
theorem period_iff {s t : State F} (hs : AfterScreenOn m s) (ht : AfterScreenOn m t)
    (settings : s.SameSettings t) (es : List (Event F)) :
    Always SameEffects (lockstep (step m)) (s, t) es ↔
      AllMeet (fun st ev => ¬JudgedByLeftover m st ev) (lockstep (step m)) (s, t) es :=
  always_iff_allMeet (PairedRun m) (fun _ _ _ h hev hst' => h.step hev hst')
    (fun _ _ _ h hst' => h.sameEffects_iff hst') (hs.pairedRun ht settings)

/-! ## A leftover -/

theorem afterScreenOn_of_foldlM (handWave pickUp pocket proximityWake : Bool) (dozeEnabled : Int)
    (isInteractive : Bool) (es : List (Event F)) {s : State F}
    (h : (es ++ [Event.screenOn]).foldlM (step m) ((onCreate handWave pickUp pocket proximityWake
      dozeEnabled).onStartCommand m isInteractive) = some s) : AfterScreenOn m s := by
  rw [List.foldlM_append] at h
  obtain ⟨s₀, hs₀, hs⟩ := Option.bind_eq_some_iff.mp h
  exact ⟨_, _, _, _, _, _, es, s₀, steps_iff_foldlM.mpr hs₀, hs⟩

/-- The screen is on for the first time. -/
def neverPickedUp : State ℚ := { (onCreate false true false false 1 : State ℚ) with
  displayOn := true }

/-- The screen is on after a pick-up. -/
def leftPickedUp : State ℚ := { (onCreate false true false false 1 : State ℚ) with
  mDozeEnabled := true
  mPickUpState := true
  mLastPulseTimestamp := 500
  displayOn := true
  proximityReport := some false }

theorem afterScreenOn_neverPickedUp : AfterScreenOn axisSensors neverPickedUp :=
  afterScreenOn_of_foldlM false true false false 1 true [] (by decide +kernel)

theorem afterScreenOn_leftPickedUp : AfterScreenOn axisSensors leftPickedUp :=
  afterScreenOn_of_foldlM false true false false 1 true
    [.screenOff, .proximity [5] 0, .pickUp [0, 0, 9.8] ⟨500, 500⟩,
      .pickUp [0, 9.8, 0] ⟨500, 500⟩] (by decide +kernel)

theorem period_uncovered :
    let es : List (Event ℚ) := [.screenOff, .proximity [5] 0]
    (es.foldlM (lockstep (step axisSensors)) (leftPickedUp, neverPickedUp)).isSome = true ∧
      Always SameEffects (lockstep (step axisSensors)) (leftPickedUp, neverPickedUp) es := by
  refine ⟨by decide +kernel, ?_⟩
  exact (period_iff afterScreenOn_leftPickedUp afterScreenOn_neverPickedUp
    ⟨rfl, rfl, rfl, rfl, rfl⟩ _).mpr fun _ _ => ⟨not_false, fun _ _ => ⟨not_false, trivial⟩⟩

/-- A device that lies face up is covered for two seconds. After an earlier pick-up that is a
pulse. -/
theorem leftover_pulses : ¬∀ (m : SensorManager ℚ) (s t : State ℚ), AfterScreenOn m s →
    AfterScreenOn m t → s.SameSettings t → ∀ es : List (Event ℚ),
      Always SameEffects (lockstep (step m)) (s, t) es := by
  intro h
  have hrun := h axisSensors leftPickedUp neverPickedUp afterScreenOn_leftPickedUp
    afterScreenOn_neverPickedUp ⟨rfl, rfl, rfl, rfl, rfl⟩
    [.screenOff, .proximity [5] 0, .proximity [0] 10, .proximity [5] 2000000000,
      .orientation .accelerometer [0, 0, 9.8] ⟨500, 500⟩,
      .orientation .magneticField [0, 20, -40] ⟨500, 500⟩]
  have hsame : SameEffects _ := ((((((hrun _ rfl).2 _ rfl).2 _ rfl).2 _ rfl).2 _ rfl).2 _ rfl).1
  revert hsame
  unfold SameEffects
  decide +kernel

end Events

end State
end Doze
end Huashan
