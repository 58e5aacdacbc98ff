import Huashan.Doze.Service

/-!
# Huashan.Doze.Monitor

Which of the sensors are enabled. `Present` and `running` say what the two setters do to them, and
each handler is seen to be made of setters.

`monitor_always`: orientation and pick-up are never both enabled, and nothing is enabled while the
screen is on.
-/

namespace Huashan
namespace Doze
namespace State

variable {F : Type} {m : SensorManager F}

/-! ## What the setters do -/

/-- Enabled sensors are there. -/
structure Present (m : SensorManager F) (s : State F) : Prop where
  orientation : s.mOrientationSensor.mEnabled = true →
    (m.hasAccelerometer && m.hasMagneticField) = true
  pickUp : s.mPickUpSensor.mEnabled = true → m.hasAccelerometer = true
  proximity : s.mProximitySensor.mEnabled = true → m.hasProximity = true

/-- Whether the orientation and the pick-up sensor are enabled. -/
def running (s : State F) : Bool × Bool :=
  (s.mOrientationSensor.mEnabled, s.mPickUpSensor.mEnabled)

theorem Present.of_running {s t : State F} (hs : s.Present m) (h : t.running = s.running)
    (hproximity : t.mProximitySensor.mEnabled = s.mProximitySensor.mEnabled) : t.Present m where
  orientation := fun ht => hs.orientation ((congrArg Prod.fst h).symm.trans ht)
  pickUp := fun ht => hs.pickUp ((congrArg Prod.snd h).symm.trans ht)
  proximity := fun ht => hs.proximity (hproximity.symm.trans ht)

theorem disable_mEnabled {o : OrientationSensor F}
    (ho : o.mEnabled = true → (m.hasAccelerometer && m.hasMagneticField) = true) :
    (o.disable m).mEnabled = false := by
  unfold OrientationSensor.disable
  cases he : o.mEnabled with
  | false => simp [he]
  | true => simp [Bool.and_eq_true] at ho; simp [ho he]

theorem enable_mEnabled {o : OrientationSensor F}
    (ho : o.mEnabled = true → (m.hasAccelerometer && m.hasMagneticField) = true) :
    (o.enable m).mEnabled = (m.hasAccelerometer && m.hasMagneticField) := by
  unfold OrientationSensor.enable
  cases he : o.mEnabled with
  | false => cases ha : m.hasAccelerometer <;> cases hm : m.hasMagneticField <;> simp [he]
  | true => simp [he, ho he]

theorem pickUp_disable_mEnabled {p : PickUpSensor}
    (hp : p.mEnabled = true → m.hasAccelerometer = true) : (p.disable m).mEnabled = false := by
  unfold PickUpSensor.disable
  cases he : p.mEnabled with
  | false => simp [he]
  | true => simp [hp he]

theorem pickUp_enable_mEnabled {p : PickUpSensor}
    (hp : p.mEnabled = true → m.hasAccelerometer = true) :
    (p.enable m).mEnabled = m.hasAccelerometer := by
  unfold PickUpSensor.enable
  cases he : p.mEnabled with
  | false => cases ha : m.hasAccelerometer <;> simp [he]
  | true => simp [he, hp he]

theorem running_setOrientationSensor {s : State F} (hs : s.Present m) (enabled reset : Bool) :
    (s.setOrientationSensor m enabled reset).running =
      if enabled then (m.hasAccelerometer && m.hasMagneticField, false)
      else (false, s.mPickUpSensor.mEnabled) := by
  have hreset : ∀ b : Bool,
      (if b then s.mOrientationSensor.reset else s.mOrientationSensor).mEnabled =
        s.mOrientationSensor.mEnabled := by
    intro b
    cases b <;> rfl
  cases enabled with
  | true =>
    have ho := enable_mEnabled (m := m) (o := if reset then s.mOrientationSensor.reset
      else s.mOrientationSensor) (by rw [hreset]; exact hs.orientation)
    exact Prod.ext ho (pickUp_disable_mEnabled hs.pickUp)
  | false =>
    have ho := disable_mEnabled (m := m) (o := if reset then s.mOrientationSensor.reset
      else s.mOrientationSensor) (by rw [hreset]; exact hs.orientation)
    exact Prod.ext ho rfl

theorem running_setPickUpSensor {s : State F} (hs : s.Present m) (enabled reset : Bool) :
    (s.setPickUpSensor m enabled reset).running =
      if enabled then (false, m.hasAccelerometer) else (s.mOrientationSensor.mEnabled, false) := by
  have hreset : ∀ b : Bool, (if b then s.mPickUpSensor.reset else s.mPickUpSensor).mEnabled
      = s.mPickUpSensor.mEnabled := by intro b; cases b <;> rfl
  cases enabled with
  | true =>
    have hp := pickUp_enable_mEnabled (m := m) (p := if reset then s.mPickUpSensor.reset
      else s.mPickUpSensor) (by rw [hreset]; exact hs.pickUp)
    exact Prod.ext (disable_mEnabled hs.orientation) hp
  | false =>
    have hp := pickUp_disable_mEnabled (m := m) (p := if reset then s.mPickUpSensor.reset
      else s.mPickUpSensor) (by rw [hreset]; exact hs.pickUp)
    exact Prod.ext rfl hp

theorem Present.setOrientationSensor {s : State F} (hs : s.Present m) (enabled reset : Bool) :
    (s.setOrientationSensor m enabled reset).Present m := by
  have hrun := running_setOrientationSensor hs enabled reset
  have ho := congrArg Prod.fst hrun
  have hp := congrArg Prod.snd hrun
  refine ⟨fun h => ?_, fun h => ?_, ?_⟩
  · cases enabled with
    | true => exact ho.symm.trans h
    | false => exact absurd (ho.symm.trans h) (by simp)
  · cases enabled with
    | true => exact absurd (hp.symm.trans h) (by simp)
    | false => exact hs.pickUp (hp.symm.trans h)
  · cases enabled <;> exact hs.proximity

theorem Present.setPickUpSensor {s : State F} (hs : s.Present m) (enabled reset : Bool) :
    (s.setPickUpSensor m enabled reset).Present m := by
  have hrun := running_setPickUpSensor hs enabled reset
  have ho := congrArg Prod.fst hrun
  have hp := congrArg Prod.snd hrun
  refine ⟨fun h => ?_, fun h => ?_, ?_⟩
  · cases enabled with
    | true => exact absurd (ho.symm.trans h) (by simp)
    | false => exact hs.orientation (ho.symm.trans h)
  · cases enabled with
    | true => exact hp.symm.trans h
    | false => exact absurd (hp.symm.trans h) (by simp)
  · cases enabled <;> exact hs.proximity

/-! ## What the handlers leave alone -/

/-- The state without what a gesture changes. -/
def core (s : State F) : State F :=
  { s with
    mOrientationSensor := .new
    mPickUpSensor := .new
    mDozeEnabled := false
    mHandwaveDoze := false
    mPickUpDoze := false
    mPickUpState := false
    mPocketDoze := false
    mProximityWake := false
    mLastPulseTimestamp := 0
    mLastStowedTimestamp := 0
    effects := [] }

/-- A field that `core` keeps. -/
theorem eq_of_core {α : Type*} (f : State F → α) (hf : ∀ s, f s.core = f s) {s t : State F}
    (h : t.core = s.core) : f t = f s := by
  rw [← hf t, h, hf s]

@[simp] theorem core_setOrientationSensor (s : State F) (enabled reset : Bool) :
    (s.setOrientationSensor m enabled reset).core = s.core := by
  cases enabled <;> rfl

@[simp] theorem core_setPickUpSensor (s : State F) (enabled reset : Bool) :
    (s.setPickUpSensor m enabled reset).core = s.core := by
  cases enabled <;> rfl

@[simp] theorem core_getDozeEnabled (s : State F) : s.getDozeEnabled.core = s.core := rfl

@[simp] theorem core_resetValues (s : State F) : s.resetValues.core = s.core := rfl

@[simp] theorem core_launchDozePulse (s : State F) (clock : Clock) :
    (s.launchDozePulse clock).core = s.core := by
  unfold launchDozePulse
  split <;> rfl

@[simp] theorem core_launchGesture (s : State F) (clock : Clock) :
    (s.launchGesture clock).core = s.core := by
  unfold launchGesture
  split
  · exact core_launchDozePulse s clock
  · split
    · exact core_launchDozePulse s clock
    · split
      · exact core_launchDozePulse s clock
      · split <;> rfl

theorem core_restorePickUpSensor (s : State F) : (s.restorePickUpSensor m).core = s.core := by
  unfold restorePickUpSensor
  split
  · exact core_setPickUpSensor s true false
  · rfl

theorem core_analyseDoze (s : State F) (clock : Clock) : (s.analyseDoze m clock).core = s.core := by
  rw [analyseDoze, core_resetValues, core_restorePickUpSensor, core_launchGesture,
    core_getDozeEnabled]

theorem core_onOrientationEvent (s : State F) (clock : Clock) :
    (s.onOrientationEvent m clock).core = s.core := by
  unfold onOrientationEvent handleOrientation
  split
  · rw [core_analyseDoze, core_setOrientationSensor]
  · exact core_setOrientationSensor s false false

theorem core_onPickUpEvent (s : State F) (clock : Clock) :
    (s.onPickUpEvent m clock).core = s.core := by
  unfold onPickUpEvent handlePickUp
  extract_lets
  split
  · exact core_analyseDoze _ clock
  · rfl

/-- A release changes flags only, and then starts the orientation sensor, or the pick-up sensor, or
nothing; the last without the pick-up gesture only. -/
theorem handleProximity_far (s : State F) (timestamp : Int64) (hfar : s.mProximityNear = false) :
    ∃ u : State F, (s.handleProximity m timestamp = u.setOrientationSensor m true false ∨
        s.handleProximity m timestamp = u.setPickUpSensor m true false ∨
        (s.handleProximity m timestamp = u ∧ s.getDozeEnabled.isPickUpEnabled = false)) ∧
      u.core = s.core ∧ u.running = s.running ∧ u.effects = s.effects := by
  unfold handleProximity
  have hnear : (!s.getDozeEnabled.mProximityNear) = true := by
    rw [getDozeEnabled, hfar]
    rfl
  simp only []
  rw [if_pos hnear]
  split
  · exact ⟨_, .inl rfl, rfl, rfl, rfl⟩
  · split
    · exact ⟨_, .inl rfl, rfl, rfl, rfl⟩
    · split
      · exact ⟨_, .inl rfl, rfl, rfl, rfl⟩
      · split
        · exact ⟨_, .inl rfl, rfl, rfl, rfl⟩
        · split
          · exact ⟨_, .inr (.inl rfl), rfl, rfl, rfl⟩
          · next hoff =>
            exact ⟨_, .inr (.inr ⟨rfl, Bool.eq_false_of_not_eq_true hoff⟩), rfl, rfl, rfl⟩

theorem handleProximity_near (s : State F) (timestamp : Int64) (hnear : s.mProximityNear = true) :
    s.handleProximity m timestamp = (setOrientationSensor m
      { s.getDozeEnabled with mLastStowedTimestamp := timestamp } false false).setPickUpSensor m
        false false := by
  unfold handleProximity
  simp only [getDozeEnabled, hnear, Bool.not_true, Bool.false_eq_true, if_false]

theorem core_handleProximity (s : State F) (timestamp : Int64) :
    (s.handleProximity m timestamp).core = s.core := by
  cases hnear : s.mProximityNear with
  | true =>
    rw [handleProximity_near s timestamp hnear, core_setPickUpSensor, core_setOrientationSensor]
    rfl
  | false =>
    obtain ⟨u, heq | heq | ⟨heq, _⟩, hcore, _⟩ := handleProximity_far (m := m) s timestamp hnear
    · rw [heq, core_setOrientationSensor, hcore]
    · rw [heq, core_setPickUpSensor, hcore]
    · rw [heq, hcore]

/-! ## Which sensor a handler leaves enabled -/

@[simp] theorem running_launchGesture (s : State F) (clock : Clock) :
    (s.launchGesture clock).running = s.running := by
  unfold launchGesture launchDozePulse
  repeat' split
  all_goals rfl

theorem Present.launchGesture {s : State F} (hs : s.Present m) (clock : Clock) :
    (s.getDozeEnabled.launchGesture clock).Present m := by
  have hcore := core_launchGesture s.getDozeEnabled clock
  refine hs.of_running (running_launchGesture s.getDozeEnabled clock) ?_
  exact eq_of_core (·.mProximitySensor.mEnabled) (fun _ => rfl) hcore

theorem running_analyseDoze {s : State F} (hs : s.Present m) (clock : Clock) :
    (s.analyseDoze m clock).running =
      if !s.mProximityNear && s.getDozeEnabled.isPickUpEnabled then (false, m.hasAccelerometer)
      else s.running := by
  have hcore := core_launchGesture s.getDozeEnabled clock
  have hnear : (s.getDozeEnabled.launchGesture clock).mProximityNear = s.mProximityNear :=
    eq_of_core (·.mProximityNear) (fun _ => rfl) hcore
  have henabled : (s.getDozeEnabled.launchGesture clock).isPickUpEnabled =
      s.getDozeEnabled.isPickUpEnabled := by
    unfold launchGesture launchDozePulse
    repeat' split
    all_goals rfl
  show ((s.getDozeEnabled.launchGesture clock).restorePickUpSensor m).running = _
  unfold restorePickUpSensor
  rw [hnear, henabled]
  split
  · exact running_setPickUpSensor (hs.launchGesture clock) true false
  · exact running_launchGesture s.getDozeEnabled clock

/-- A sensor that is covered is waited for with neither of the two. -/
theorem running_handleProximity_near {s : State F} (hs : s.Present m) (timestamp : Int64)
    (hnear : s.mProximityNear = true) :
    (s.handleProximity m timestamp).running = (false, false) := by
  have hstowed :
      ({ s.getDozeEnabled with mLastStowedTimestamp := timestamp } : State F).Present m :=
    hs.of_running rfl rfl
  have hrun := running_setOrientationSensor hstowed false false
  rw [handleProximity_near s timestamp hnear,
    running_setPickUpSensor (hstowed.setOrientationSensor false false)]
  rw [if_neg Bool.false_ne_true] at hrun ⊢
  exact Prod.ext (Prod.mk.inj hrun).1 rfl

/-- A release starts the orientation sensor, or the pick-up sensor, or nothing; the last without
the pick-up gesture only. -/
theorem running_handleProximity_far {s : State F} (hs : s.Present m) (timestamp : Int64)
    (hfar : s.mProximityNear = false) :
    (s.handleProximity m timestamp).running = (m.hasAccelerometer && m.hasMagneticField, false) ∨
    (s.handleProximity m timestamp).running = (false, m.hasAccelerometer) ∨
    ((s.handleProximity m timestamp).running = s.running ∧
      s.getDozeEnabled.isPickUpEnabled = false) := by
  obtain ⟨u, hcases, hcore, hrun, _⟩ := handleProximity_far (m := m) s timestamp hfar
  have hpresent : u.Present m :=
    hs.of_running hrun (eq_of_core (·.mProximitySensor.mEnabled) (fun _ => rfl) hcore)
  obtain heq | heq | ⟨heq, hoff⟩ := hcases
  · rw [heq]
    exact .inl (running_setOrientationSensor hpresent true false)
  · rw [heq]
    exact .inr (.inl (running_setPickUpSensor hpresent true false))
  · rw [heq]
    exact .inr (.inr ⟨hrun, hoff⟩)

theorem running_onProximityInit {s : State F} (hs : s.Present m) (isNear : Bool)
    (timestamp : Int64) :
    (s.onProximityInit m isNear timestamp).running =
      if !s.isEventPending && !isNear && s.isPickUpEnabled then (false, m.hasAccelerometer)
      else s.running := by
  unfold onProximityInit
  simp only []
  split
  · next h =>
    rw [if_pos (by exact h)]
    exact running_setPickUpSensor (hs.of_running rfl rfl) true false
  · next h => rw [if_neg (by exact h)]; rfl

theorem running_onOrientationEvent {s : State F} (hs : s.Present m) (clock : Clock) :
    (s.onOrientationEvent m clock).running =
      if !s.mProximityNear && s.getDozeEnabled.isPickUpEnabled then (false, m.hasAccelerometer)
      else (false, s.mPickUpSensor.mEnabled) := by
  have hcore := core_setOrientationSensor (m := m) s false false
  have hrun := running_setOrientationSensor hs false false
  have hnear : (s.setOrientationSensor m false false).mProximityNear = s.mProximityNear :=
    eq_of_core (·.mProximityNear) (fun _ => rfl) hcore
  have henabled : (s.setOrientationSensor m false false).getDozeEnabled.isPickUpEnabled =
    s.getDozeEnabled.isPickUpEnabled := rfl
  unfold onOrientationEvent handleOrientation
  rw [hnear]
  cases hn : s.mProximityNear with
  | true => exact hrun
  | false =>
    rw [Bool.not_false, if_pos rfl, running_analyseDoze (hs.setOrientationSensor false false),
      hnear, hn, henabled, hrun]
    rfl

/-- The pick-up sensor stays as it is, or is enabled alone. -/
theorem running_onPickUpEvent {s : State F} (hs : s.Present m) (clock : Clock) :
    (s.onPickUpEvent m clock).running = s.running ∨
      (s.onPickUpEvent m clock).running = (false, m.hasAccelerometer) := by
  have hanalyse : ∀ t : State F, t.running = s.running →
      t.mProximitySensor.mEnabled = s.mProximitySensor.mEnabled →
      (t.analyseDoze m clock).running = s.running ∨
        (t.analyseDoze m clock).running = (false, m.hasAccelerometer) := by
    intro t hrun hprox
    rw [running_analyseDoze (hs.of_running hrun hprox)]
    split
    · exact .inr rfl
    · exact .inl hrun
  unfold onPickUpEvent handlePickUp
  simp only []
  split
  · exact hanalyse _ rfl rfl
  · exact .inl rfl

theorem core_onProximityEvent (s : State F) (isNear : Bool) (timestamp : Int64) :
    (s.onProximityEvent m isNear timestamp).core = { s with mProximityNear := isNear }.core :=
  core_handleProximity _ timestamp

theorem core_onProximityInit (s : State F) (isNear : Bool) (timestamp : Int64) :
    (s.onProximityInit m isNear timestamp).core = { s with mProximityNear := isNear }.core := by
  unfold onProximityInit
  simp only []
  split
  · exact core_setPickUpSensor _ true false
  · rfl

/-! ## Exclusion -/

/-- What every state of a run keeps. -/
structure Orderly (m : SensorManager F) (s : State F) : Prop where
  exclusive : s.running = (false, false) ∨
    s.running = (m.hasAccelerometer && m.hasMagneticField, false) ∨
    s.running = (false, m.hasAccelerometer)
  proximity : s.mProximitySensor.mEnabled = true → m.hasProximity = true
  asleep : s.displayOn = true →
    s.running = (false, false) ∧ s.mProximitySensor.mEnabled = false

theorem Orderly.present {s : State F} (hs : s.Orderly m) : s.Present m where
  orientation := by
    intro h
    have hfst : s.running.1 = true := h
    obtain hrun | hrun | hrun := hs.exclusive <;> rw [hrun] at hfst
    · cases hfst
    · exact hfst
    · cases hfst
  pickUp := by
    intro h
    have hsnd : s.running.2 = true := h
    obtain hrun | hrun | hrun := hs.exclusive <;> rw [hrun] at hsnd
    · cases hsnd
    · cases hsnd
    · exact hsnd
  proximity := hs.proximity

/-- While the screen is off, only the exclusion has to be looked at. -/
theorem Orderly.of_running {s t : State F} (hs : s.Orderly m) (hoff : s.displayOn = false)
    (hdisplay : t.displayOn = s.displayOn)
    (hproximity : t.mProximitySensor.mEnabled = s.mProximitySensor.mEnabled)
    (hrun : t.running = s.running ∨ t.running = (false, false) ∨
      t.running = (m.hasAccelerometer && m.hasMagneticField, false) ∨
      t.running = (false, m.hasAccelerometer)) : t.Orderly m where
  exclusive := by
    obtain hrun | hrun := hrun
    · rw [hrun]; exact hs.exclusive
    · exact hrun
  proximity := fun h => hs.proximity (hproximity.symm.trans h)
  asleep := fun hon => by rw [hdisplay, hoff] at hon; cases hon

theorem Orderly.displayOff_of_enabled {s : State F} (hs : s.Orderly m)
    (h : s.mOrientationSensor.mEnabled = true ∨ s.mPickUpSensor.mEnabled = true ∨
      s.mProximitySensor.mEnabled = true) : s.displayOn = false := by
  by_contra hon
  obtain ⟨hrun, hproximity⟩ := hs.asleep (Bool.eq_true_of_not_eq_false hon)
  obtain ⟨ho, hp⟩ := Prod.mk.inj hrun
  simp [ho, hp, hproximity] at h

theorem stopProximitySensor_mEnabled {s : State F} (hs : s.Present m) (reset : Bool) :
    (s.setProximitySensor m false reset).mProximitySensor.mEnabled = false := by
  have hp := hs.proximity
  unfold setProximitySensor ProximitySensor.disable ProximitySensor.reset
  cases he : s.mProximitySensor.mEnabled with
  | true => cases reset <;> simp [he, hp he]
  | false => cases reset <;> simp [he]

theorem startProximitySensor_mEnabled {s : State F} (hs : s.Present m) (reset : Bool) :
    (s.setProximitySensor m true reset).mProximitySensor.mEnabled = m.hasProximity := by
  have hp := hs.proximity
  unfold setProximitySensor ProximitySensor.enable ProximitySensor.reset
  cases he : s.mProximitySensor.mEnabled with
  | true => cases reset <;> simp [he, hp he]
  | false => cases reset <;> cases hm : m.hasProximity <;> simp [he]

/-- Both of the setters switch off what they are told to. -/
theorem running_stop {s : State F} (hs : s.Present m) (reset : Bool) :
    ((s.setOrientationSensor m false reset).setPickUpSensor m false reset).running =
      (false, false) := by
  have hrun := running_setOrientationSensor hs false reset
  have hstop := running_setPickUpSensor (hs.setOrientationSensor false reset) false reset
  rw [if_neg Bool.false_ne_true] at hrun hstop
  rw [hstop, (Prod.mk.inj hrun).1]

theorem Orderly.onDisplayOn {s : State F} (hs : s.Orderly m) :
    ({ s.onDisplayOn m with displayOn := true } : State F).Orderly m := by
  have hrun := running_stop hs.present true
  have hproximity := stopProximitySensor_mEnabled
    ((hs.present.setOrientationSensor false true).setPickUpSensor false true) true
  exact ⟨.inl hrun, fun h => absurd (hproximity.symm.trans h) Bool.false_ne_true,
    fun _ => ⟨hrun, hproximity⟩⟩

theorem Orderly.onDisplayOff {s : State F} (hs : s.Orderly m) (hoff : s.displayOn = false) :
    (s.onDisplayOff m).Orderly m := by
  unfold State.onDisplayOff
  simp only []
  split
  · have hpresent : ({ s.getDozeEnabled with mLastPulseTimestamp := 0 } :
        State F).resetValues.Present m := hs.present.of_running rfl rfl
    have hproximity := startProximitySensor_mEnabled
      ((hpresent.setOrientationSensor false true).setPickUpSensor false true) true
    refine ⟨.inl (running_stop hpresent true), fun h => hproximity.symm.trans h, fun hon => ?_⟩
    exact absurd (hoff.symm.trans hon) Bool.false_ne_true
  · exact ⟨hs.exclusive, hs.proximity, hs.asleep⟩

theorem orderly_start (handWave pickUp pocket proximityWake : Bool) (dozeEnabled : Int)
    (isInteractive : Bool) : ((onCreate handWave pickUp pocket proximityWake dozeEnabled :
      State F).onStartCommand m isInteractive).Orderly m := by
  have hcreate : (onCreate handWave pickUp pocket proximityWake dozeEnabled :
      State F).Orderly m := ⟨.inl rfl, nofun, nofun⟩
  cases isInteractive with
  | true => exact hcreate
  | false => exact hcreate.onDisplayOff rfl

/-- Orientation and pick-up are not both enabled, and while the screen is on no sensor is. -/
def SensorsExclude (s : State F) : Prop :=
  ¬(s.mOrientationSensor.mEnabled = true ∧ s.mPickUpSensor.mEnabled = true) ∧
    (s.displayOn = true → s.mOrientationSensor.mEnabled = false ∧
      s.mPickUpSensor.mEnabled = false ∧ s.mProximitySensor.mEnabled = false)

theorem Orderly.sensorsExclude {s : State F} (hs : s.Orderly m) : s.SensorsExclude := by
  refine ⟨fun ⟨ho, hp⟩ => ?_, fun hon => ?_⟩
  · have hboth : s.running = (true, true) := Prod.ext ho hp
    obtain hrun | hrun | hrun := hs.exclusive <;> rw [hrun] at hboth <;> simp at hboth
  · obtain ⟨hrun, hproximity⟩ := hs.asleep hon
    exact ⟨(Prod.mk.inj hrun).1, (Prod.mk.inj hrun).2, hproximity⟩

/-! ## Sensor events -/

section Events

variable [LT F] [DecidableLT F]

/-- The state after the proximity sensor has stored a reading. -/
def reported (s : State F) (isNear : Bool) : State F :=
  { s with proximityReport := some isNear,
           mProximitySensor := { s.mProximitySensor with mState := isNear } }

theorem proximityChanged_ready {s : State F} (hready : s.mProximitySensor.mReady = true) (value : F)
    (values : List F) (timestamp : Int64) :
    s.proximityChanged m (value :: values) timestamp =
      if s.mProximitySensor.mState = decide (value < m.maximumRange) then
        s.reported (decide (value < m.maximumRange))
      else (s.reported (decide (value < m.maximumRange))).onProximityEvent m
        (decide (value < m.maximumRange)) timestamp := by
  have hkeep : ∀ isNear, ((s.reported isNear).onProximityEvent m isNear
      timestamp).mProximitySensor.mReady = true := by
    intro isNear
    have hcore := core_onProximityEvent (m := m) (s.reported isNear) isNear timestamp
    exact (eq_of_core (·.mProximitySensor.mReady) (fun _ => rfl) hcore).trans hready
  -- the event is over before the sensor is initialised, if it has to be
  have hchanged : ∀ u : State F, u = (if decide (s.mProximitySensor.mState ≠
      decide (value < m.maximumRange)) && s.mProximitySensor.mReady then
      (s.reported (decide (value < m.maximumRange))).onProximityEvent m
        (decide (value < m.maximumRange)) timestamp
      else s.reported (decide (value < m.maximumRange))) → u.mProximitySensor.mReady = true →
      s.proximityChanged m (value :: values) timestamp = u := by
    intro u hu hr
    subst hu
    exact if_neg (by simpa [reported] using hr)
  by_cases hsame : s.mProximitySensor.mState = decide (value < m.maximumRange)
  · rw [if_pos hsame]
    exact hchanged _ (by rw [hready, hsame]; simp) hready
  · rw [if_neg hsame]
    exact hchanged _ (by simp [hready, hsame]) (hkeep _)

theorem proximityChanged_unready {s : State F} (hready : s.mProximitySensor.mReady = false)
    (value : F) (values : List F) (timestamp : Int64) :
    s.proximityChanged m (value :: values) timestamp =
      let t := (s.reported (decide (value < m.maximumRange))).onProximityInit m
        (decide (value < m.maximumRange)) timestamp
      { t with mProximitySensor := { t.mProximitySensor with mReady := true } } := by
  unfold proximityChanged reported
  simp [hready]

theorem Orderly.proximityChanged {s : State F} (hs : s.Orderly m)
    (hoff : s.displayOn = false) (values : List F) (timestamp : Int64) :
    (s.proximityChanged m values timestamp).Orderly m := by
  cases values with
  | nil => exact hs
  | cons value values =>
    have hreported : ∀ isNear, ({ s.reported isNear with mProximityNear := isNear } :
        State F).Present m := fun isNear => hs.present.of_running rfl rfl
    cases hready : s.mProximitySensor.mReady with
    | true =>
      rw [proximityChanged_ready hready]
      generalize decide (value < m.maximumRange) = isNear
      split
      · exact hs.of_running hoff rfl rfl (.inl rfl)
      · have hcore := core_onProximityEvent (m := m) (s.reported isNear) isNear timestamp
        have hdisplay := eq_of_core (·.displayOn) (fun _ => rfl) hcore
        have hproximity := eq_of_core (·.mProximitySensor.mEnabled) (fun _ => rfl) hcore
        refine hs.of_running hoff hdisplay hproximity ?_
        cases hnear : isNear with
        | true =>
          exact .inr (.inl (running_handleProximity_near (hreported true) timestamp rfl))
        | false =>
          obtain hrun | hrun | ⟨hrun, _⟩ :=
            running_handleProximity_far (hreported false) timestamp rfl
          · exact .inr (.inr (.inl hrun))
          · exact .inr (.inr (.inr hrun))
          · exact .inl hrun
    | false =>
      rw [proximityChanged_unready hready]
      generalize decide (value < m.maximumRange) = isNear
      have hcore := core_onProximityInit (m := m) (s.reported isNear) isNear timestamp
      have hrun := running_onProximityInit (s := s.reported isNear)
        (hs.present.of_running rfl rfl) isNear timestamp
      have hdisplay := eq_of_core (·.displayOn) (fun _ => rfl) hcore
      have hproximity := eq_of_core (·.mProximitySensor.mEnabled) (fun _ => rfl) hcore
      refine hs.of_running hoff hdisplay hproximity ?_
      split at hrun
      · exact .inr (.inr (.inr hrun))
      · exact .inl hrun

variable [Neg F] [OfScientific F]

theorem onSensorChanged_mEnabled (o : OrientationSensor F) (input : OrientationInput)
    (values : List F) : (o.onSensorChanged m input values).1.mEnabled = o.mEnabled := by
  unfold OrientationSensor.onSensorChanged
  simp only []
  repeat' split
  all_goals rfl

/-- The state in which the orientation listener is called. -/
def oriented (m : SensorManager F) (s : State F) (input : OrientationInput) (values : List F) :
    State F :=
  { s with mOrientationSensor := (s.mOrientationSensor.onSensorChanged m input values).1 }

theorem orientationChanged_eq (s : State F) (input : OrientationInput) (values : List F)
    (clock : Clock) : s.orientationChanged m input values clock =
      if (s.mOrientationSensor.onSensorChanged m input values).2 then
        (s.oriented m input values).onOrientationEvent m clock
      else s.oriented m input values := rfl

theorem running_oriented (s : State F) (input : OrientationInput) (values : List F) :
    (s.oriented m input values).running = s.running :=
  Prod.ext (onSensorChanged_mEnabled _ input values) rfl

theorem core_orientationChanged (s : State F) (input : OrientationInput) (values : List F)
    (clock : Clock) : (s.orientationChanged m input values clock).core = s.core := by
  rw [orientationChanged_eq]
  split
  · exact core_onOrientationEvent (s.oriented m input values) clock
  · rfl

/-- The state after the pick-up sensor has stored a reading and has called its listener. -/
def pickedUp (m : SensorManager F) (s : State F) (x y : F) (clock : Clock) : State F :=
  let mState := s.mPickUpSensor.nextState x y
  let u : State F := { s with mPickUpSensor := { s.mPickUpSensor with mState := mState } }
  if decide (s.mPickUpSensor.mState ≠ mState) && s.mPickUpSensor.mReady then
    u.onPickUpEvent m clock
  else u

theorem pickUpChanged_eq (s : State F) (x y z : F) (values : List F) (clock : Clock) :
    s.pickUpChanged m (x :: y :: z :: values) clock =
      some (if !(s.pickedUp m x y clock).mPickUpSensor.mReady then
        onPickUpInit { s.pickedUp m x y clock with
          mPickUpSensor := { (s.pickedUp m x y clock).mPickUpSensor with mReady := true } }
      else s.pickedUp m x y clock) := by
  show (if !(s.pickedUp m x y clock).mPickUpSensor.mReady then some _ else some _) = _
  split <;> rfl

theorem pickedUp_cases (s : State F) (x y : F) (clock : Clock) : ∃ t : State F,
    t.running = s.running ∧ t.core = s.core ∧ t.effects = s.effects ∧
      (s.pickedUp m x y clock = t ∨ s.pickedUp m x y clock = t.onPickUpEvent m clock) := by
  refine ⟨{ s with mPickUpSensor := { s.mPickUpSensor with
    mState := s.mPickUpSensor.nextState x y } }, rfl, rfl, rfl, ?_⟩
  unfold pickedUp
  simp only []
  split
  · exact .inr rfl
  · exact .inl rfl

/-- A reading of the pick-up sensor calls the listener or does not; becoming ready changes nothing
else. -/
theorem pickUpChanged_cases {s s' : State F} {values : List F} {clock : Clock}
    (h : s.pickUpChanged m values clock = some s') : ∃ t u : State F, t.running = s.running ∧
      t.core = s.core ∧ t.effects = s.effects ∧ (u = t ∨ u = t.onPickUpEvent m clock) ∧
      s'.running = u.running ∧ s'.core = u.core ∧ s'.effects = u.effects := by
  match values with
  | [] => cases h; exact ⟨s, s, rfl, rfl, rfl, .inl rfl, rfl, rfl, rfl⟩
  | [x] => cases h
  | [x, y] => cases h
  | x :: y :: z :: values =>
    rw [pickUpChanged_eq] at h
    cases h
    obtain ⟨t, hrun, hcore, heffects, ht⟩ := pickedUp_cases (m := m) s x y clock
    refine ⟨t, s.pickedUp m x y clock, hrun, hcore, heffects, ht, ?_⟩
    split <;> exact ⟨rfl, rfl, rfl⟩

theorem core_pickUpChanged {s s' : State F} {values : List F} {clock : Clock}
    (h : s.pickUpChanged m values clock = some s') : s'.core = s.core := by
  obtain ⟨t, u, _, htcore, _, hu, _, hcore, _⟩ := pickUpChanged_cases h
  rw [hcore, ← htcore]
  obtain rfl | rfl := hu
  · rfl
  · exact core_onPickUpEvent t clock

theorem Orderly.orientationChanged {s : State F} (hs : s.Orderly m)
    (hoff : s.displayOn = false) (input : OrientationInput) (values : List F) (clock : Clock) :
    (s.orientationChanged m input values clock).Orderly m := by
  have hcore := core_orientationChanged (m := m) s input values clock
  refine hs.of_running hoff (eq_of_core (·.displayOn) (fun _ => rfl) hcore)
    (eq_of_core (·.mProximitySensor.mEnabled) (fun _ => rfl) hcore) ?_
  have hrun := running_oriented (m := m) s input values
  have hpresent : (s.oriented m input values).Present m := hs.present.of_running hrun rfl
  rw [orientationChanged_eq]
  split
  · rw [running_onOrientationEvent hpresent]
    split
    · exact .inr (.inr (.inr rfl))
    · -- the other sensor keeps what it has
      cases hp : (s.oriented m input values).mPickUpSensor.mEnabled with
      | true => exact .inr (.inr (.inr (by rw [hpresent.pickUp hp])))
      | false => exact .inr (.inl rfl)
  · exact .inl hrun

theorem Orderly.pickUpChanged {s s' : State F} (hs : s.Orderly m) (hoff : s.displayOn = false)
    {values : List F} {clock : Clock} (h : s.pickUpChanged m values clock = some s') :
    s'.Orderly m := by
  have hcore := core_pickUpChanged h
  refine hs.of_running hoff (eq_of_core (·.displayOn) (fun _ => rfl) hcore)
    (eq_of_core (·.mProximitySensor.mEnabled) (fun _ => rfl) hcore) ?_
  obtain ⟨t, u, hrun, htcore, _, hu, hs', _⟩ := pickUpChanged_cases h
  rw [hs', ← hrun]
  obtain rfl | rfl := hu
  · exact .inl rfl
  · have hpresent : t.Present m := hs.present.of_running hrun
      (eq_of_core (·.mProximitySensor.mEnabled) (fun _ => rfl) htcore)
    obtain hevent | hevent := running_onPickUpEvent hpresent clock
    · exact .inl hevent
    · exact .inr (.inr (.inr hevent))

theorem Orderly.handle {s s' : State F} (hs : s.Orderly m) {ev : Event F}
    (h : s.handle m ev = some s') : s'.Orderly m := by
  cases ev with
  | screenOff =>
    cases h
    exact Orderly.onDisplayOff ⟨hs.exclusive, hs.proximity, nofun⟩ rfl
  | screenOn => cases h; exact hs.onDisplayOn
  | preferenceChanged key value =>
    cases h
    cases key <;> exact ⟨hs.exclusive, hs.proximity, hs.asleep⟩
  | dozeEnabledChanged value => cases h; exact ⟨hs.exclusive, hs.proximity, hs.asleep⟩
  | proximity values timestamp =>
    obtain ⟨he, h⟩ := Option.ite_none_right_eq_some.mp h
    cases h
    exact hs.proximityChanged (hs.displayOff_of_enabled (.inr (.inr he))) values timestamp
  | orientation input values clock =>
    obtain ⟨he, h⟩ := Option.ite_none_right_eq_some.mp h
    cases h
    exact hs.orientationChanged (hs.displayOff_of_enabled (.inl he)) input values clock
  | pickUp values clock =>
    obtain ⟨he, h⟩ := Option.ite_none_right_eq_some.mp h
    exact hs.pickUpChanged (hs.displayOff_of_enabled (.inr (.inl he))) h

theorem Orderly.step {s s' : State F} (hs : s.Orderly m) {ev : Event F}
    (h : s.step m ev = some s') : s'.Orderly m :=
  Orderly.handle (s := { s with effects := [] }) ⟨hs.exclusive, hs.proximity, hs.asleep⟩ h

/-- After every event of every run, orientation and pick-up exclude each other, and the sensors
sleep while the screen is on. -/
theorem monitor_always (m : SensorManager F) (handWave pickUp pocket proximityWake : Bool)
    (dozeEnabled : Int) (isInteractive : Bool) (es : List (Event F)) :
    Always SensorsExclude (step m)
      ((onCreate handWave pickUp pocket proximityWake dozeEnabled).onStartCommand m
        isInteractive) es :=
  always_of_invariant (Orderly m) (fun _ _ _ hs h => hs.step h) (fun _ hs => hs.sensorsExclude)
    (orderly_start handWave pickUp pocket proximityWake dozeEnabled isInteractive) es

end Events

end State
end Doze
end Huashan
