import Huashan.Doze.Sensors

/-!
# Huashan.Doze.Service

`SensorsDozeService.java`: the gestures that pulse or wake the device while the screen is off. All
of it runs in the main thread, so an event is handled before the next one.
-/

namespace Huashan
namespace Doze

/-- What the service asks of the system. A pulse is noted with the value that `DOZE_ENABLED` has
when it is broadcast. -/
inductive Effect where
  | dozePulse (dozeEnabled : Int)
  | deviceWake
  deriving DecidableEq, Repr

/-- The readings of `elapsedRealtime` in a call of `launchDozePulse`: the one for the time since
the last pulse, and the one that is kept. -/
structure Clock where
  now : Int64
  stamp : Int64
  deriving DecidableEq, Repr

inductive Preference where
  | gestureHandWave
  | gesturePickUp
  | gesturePocket
  | proximityWakeEnable
  | other
  deriving DecidableEq, Repr

structure State (F : Type) where
  mOrientationSensor : OrientationSensor F
  mPickUpSensor : PickUpSensor
  mProximitySensor : ProximitySensor
  mDozeEnabled : Bool
  mHandwaveDoze : Bool
  mHandwaveGestureEnabled : Bool
  mPickUpDoze : Bool
  mPickUpGestureEnabled : Bool
  mPickUpState : Bool
  mPocketDoze : Bool
  mPocketGestureEnabled : Bool
  mProximityNear : Bool
  mProximityWake : Bool
  mProximityWakeEnabled : Bool
  mLastPulseTimestamp : Int64
  mLastStowedTimestamp : Int64
  /-- `Settings.Secure.DOZE_ENABLED`. -/
  dozeEnabled : Int
  /-- A `SCREEN_ON` was handled, and no `SCREEN_OFF` since. -/
  displayOn : Bool
  /-- What the last reading of the proximity sensor since `SCREEN_OFF` reports: near or not. -/
  proximityReport : Option Bool
  /-- What the last event made the service do, the last thing first. -/
  effects : List Effect
  deriving DecidableEq

namespace State

variable {F : Type}

def handwaveDeltaNs : Int64 := 1000 * 1000 * 1000
def pulseMinIntervalMs : Int64 := 5000

/-! ## Settings -/

def getDozeEnabled (s : State F) : State F := { s with mDozeEnabled := decide (s.dozeEnabled ≠ 0) }

def isHandwaveEnabled (s : State F) : Bool := s.mHandwaveGestureEnabled && s.mDozeEnabled

def isPickUpEnabled (s : State F) : Bool := s.mPickUpGestureEnabled && s.mDozeEnabled

def isPocketEnabled (s : State F) : Bool := s.mPocketGestureEnabled && s.mDozeEnabled

def isProximityWakeEnabled (s : State F) : Bool := s.mProximityWakeEnabled

def isEventPending (s : State F) : Bool :=
  s.mHandwaveDoze || s.mPickUpDoze || s.mPocketDoze || s.mProximityWake

/-! ## Effects -/

/-- The time since the last pulse is long enough. -/
def pulseDue (s : State F) (clock : Clock) : Bool :=
  if s.mLastPulseTimestamp ≠ 0 then clock.now - s.mLastPulseTimestamp ≥ pulseMinIntervalMs
  else true

def launchDozePulse (s : State F) (clock : Clock) : State F :=
  if s.pulseDue clock then
    { s with
      mLastPulseTimestamp := clock.stamp
      effects := .dozePulse s.dozeEnabled :: s.effects }
  else s

def launchDeviceWake (s : State F) : State F := { s with effects := .deviceWake :: s.effects }

def resetValues (s : State F) : State F :=
  { s with mHandwaveDoze := false, mPickUpDoze := false, mPocketDoze := false,
           mProximityWake := false }

/-! ## Switching sensors -/

section
variable (m : SensorManager F)

/-- `setOrientationSensor(false, reset)`. -/
def stopOrientationSensor (s : State F) (reset : Bool) : State F :=
  let o := if reset then s.mOrientationSensor.reset else s.mOrientationSensor
  { s with mOrientationSensor := o.disable m }

/-- `setPickUpSensor(false, reset)`. -/
def stopPickUpSensor (s : State F) (reset : Bool) : State F :=
  let p := if reset then s.mPickUpSensor.reset else s.mPickUpSensor
  { s with mPickUpSensor := p.disable m }

def setOrientationSensor (s : State F) (enabled reset : Bool) : State F :=
  if enabled then
    let o := if reset then s.mOrientationSensor.reset else s.mOrientationSensor
    let s := stopPickUpSensor m { s with mOrientationSensor := o } false
    { s with mOrientationSensor := s.mOrientationSensor.enable m }
  else s.stopOrientationSensor m reset

def setPickUpSensor (s : State F) (enabled reset : Bool) : State F :=
  if enabled then
    let p := if reset then s.mPickUpSensor.reset else s.mPickUpSensor
    let s := stopOrientationSensor m { s with mPickUpSensor := p } false
    { s with mPickUpSensor := s.mPickUpSensor.enable m }
  else s.stopPickUpSensor m reset

def setProximitySensor (s : State F) (enabled reset : Bool) : State F :=
  let p := if reset then s.mProximitySensor.reset else s.mProximitySensor
  { s with mProximitySensor := if enabled then p.enable m else p.disable m }

/-! ## Gestures -/

def handleProximity (s : State F) (timestamp : Int64) : State F :=
  let delta := timestamp - s.mLastStowedTimestamp
  let quickWave := decide (delta < handwaveDeltaNs)
  let s := s.getDozeEnabled
  if !s.mProximityNear then
    let s := s.resetValues
    if s.isHandwaveEnabled && s.isPickUpEnabled && s.isPocketEnabled then
      setOrientationSensor m { s with
        mHandwaveDoze := quickWave, mPickUpDoze := !quickWave, mPocketDoze := !quickWave }
        true false
    else if s.isProximityWakeEnabled && quickWave then
      setOrientationSensor m { s with mProximityWake := true } true false
    else if s.isHandwaveEnabled && quickWave then
      setOrientationSensor m { s with mHandwaveDoze := true } true false
    else if (s.isPickUpEnabled || s.isPocketEnabled) && !quickWave then
      setOrientationSensor m { s with
        mPickUpDoze := s.isPickUpEnabled, mPocketDoze := s.isPocketEnabled } true false
    else if s.isPickUpEnabled then s.setPickUpSensor m true false
    else s
  else
    let s := { s with mLastStowedTimestamp := timestamp }
    (s.setOrientationSensor m false false).setPickUpSensor m false false

/-- The gesture that `analyseDoze` finds. -/
def launchGesture (s : State F) (clock : Clock) : State F :=
  if s.mHandwaveDoze && !s.mOrientationSensor.isFaceDown then s.launchDozePulse clock
  else if s.mPickUpDoze && ((s.mPickUpState && !s.mProximityNear) ||
      (!s.mPickUpState && s.mOrientationSensor.isFaceDown)) then s.launchDozePulse clock
  else if s.mPocketDoze && s.mOrientationSensor.isVertical then s.launchDozePulse clock
  else if s.mProximityWake && !s.mOrientationSensor.isFaceDown then s.launchDeviceWake
  else s

def restorePickUpSensor (s : State F) : State F :=
  if !s.mProximityNear && s.isPickUpEnabled then s.setPickUpSensor m true false else s

def analyseDoze (s : State F) (clock : Clock) : State F :=
  ((s.getDozeEnabled.launchGesture clock).restorePickUpSensor m).resetValues

def handleOrientation (s : State F) (clock : Clock) : State F :=
  if !s.mProximityNear then s.analyseDoze m clock else s

def handlePickUp (s : State F) (clock : Clock) : State F :=
  let s := s.getDozeEnabled
  if s.mPickUpState && s.isPickUpEnabled then analyseDoze m { s with mPickUpDoze := true } clock
  else { s with mPickUpDoze := false }

/-! ## The listeners -/

/-- `mOrientationListener.onEvent`. -/
def onOrientationEvent (s : State F) (clock : Clock) : State F :=
  (s.setOrientationSensor m false false).handleOrientation m clock

/-- `mPickUpListener.onEvent`. -/
def onPickUpEvent (s : State F) (clock : Clock) : State F :=
  handlePickUp m { s with mPickUpState := s.mPickUpSensor.isPickedUp } clock

/-- `mPickUpListener.onInit`. -/
def onPickUpInit (s : State F) : State F :=
  { s with mPickUpState := s.mPickUpSensor.isPickedUp }

/-- `mProximityListener.onEvent`. -/
def onProximityEvent (s : State F) (isNear : Bool) (timestamp : Int64) : State F :=
  handleProximity m { s with mProximityNear := isNear } timestamp

/-- `mProximityListener.onInit`. -/
def onProximityInit (s : State F) (isNear : Bool) (timestamp : Int64) : State F :=
  let s := { s with mLastStowedTimestamp := timestamp, mProximityNear := isNear }
  if !s.isEventPending && !isNear && s.isPickUpEnabled then s.setPickUpSensor m true false else s

/-! ## Sensor events -/

section
variable [LT F] [DecidableLT F] [Neg F] [OfScientific F]

/-- `OrientationSensor.onSensorChanged`. -/
def orientationChanged (s : State F) (input : OrientationInput) (values : List F)
    (clock : Clock) : State F :=
  let (o, event) := s.mOrientationSensor.onSensorChanged m input values
  let s := { s with mOrientationSensor := o }
  if event then s.onOrientationEvent m clock else s

/-- `PickUpSensor.onSensorChanged`; a reading with one or two values is an exception. -/
def pickUpChanged (s : State F) (values : List F) (clock : Clock) : Option (State F) :=
  match values with
  | [] => some s
  | x :: y :: _ :: _ =>
    let mState := s.mPickUpSensor.nextState x y
    let event := decide (s.mPickUpSensor.mState ≠ mState)
    let s := { s with mPickUpSensor := { s.mPickUpSensor with mState := mState } }
    let s := if event && s.mPickUpSensor.mReady then s.onPickUpEvent m clock else s
    if !s.mPickUpSensor.mReady then
      some (onPickUpInit { s with mPickUpSensor := { s.mPickUpSensor with mReady := true } })
    else some s
  | _ => none

/-- `ProximitySensor.onSensorChanged`. -/
def proximityChanged (s : State F) (values : List F) (timestamp : Int64) : State F :=
  match values with
  | [] => s
  | value :: _ =>
    let isNear := decide (value < m.maximumRange)
    let s := { s with proximityReport := some isNear }
    let event := decide (s.mProximitySensor.mState ≠ isNear)
    let s := { s with mProximitySensor := { s.mProximitySensor with mState := isNear } }
    let s := if event && s.mProximitySensor.mReady then s.onProximityEvent m isNear timestamp
      else s
    if !s.mProximitySensor.mReady then
      let s := s.onProximityInit m isNear timestamp
      { s with mProximitySensor := { s.mProximitySensor with mReady := true } }
    else s

end

/-! ## The screen -/

def onDisplayOn (s : State F) : State F :=
  ((s.setOrientationSensor m false true).setPickUpSensor m false true).setProximitySensor m
    false true

def onDisplayOff (s : State F) : State F :=
  let s := { s.getDozeEnabled with mLastPulseTimestamp := 0 }
  if s.isHandwaveEnabled || s.isPickUpEnabled || s.isPocketEnabled || s.isProximityWakeEnabled then
    ((s.resetValues.setOrientationSensor m false true).setPickUpSensor m false
      true).setProximitySensor m true true
  else s

/-- The fields after `onCreate`, with the preferences that it loads. -/
def onCreate (handWave pickUp pocket proximityWake : Bool) (dozeEnabled : Int) : State F where
  mOrientationSensor := .new
  mPickUpSensor := .new
  mProximitySensor := .new
  mDozeEnabled := false
  mHandwaveDoze := false
  mHandwaveGestureEnabled := handWave
  mPickUpDoze := false
  mPickUpGestureEnabled := pickUp
  mPickUpState := false
  mPocketDoze := false
  mPocketGestureEnabled := pocket
  mProximityNear := false
  mProximityWake := false
  mProximityWakeEnabled := proximityWake
  mLastPulseTimestamp := 0
  mLastStowedTimestamp := 0
  dozeEnabled := dozeEnabled
  displayOn := false
  proximityReport := none
  effects := []

/-- `onStartCommand`. -/
def onStartCommand (s : State F) (isInteractive : Bool) : State F :=
  if !isInteractive then s.onDisplayOff m else s

def onSharedPreferenceChanged (s : State F) (key : Preference) (value : Bool) : State F :=
  match key with
  | .gestureHandWave => { s with mHandwaveGestureEnabled := value }
  | .gesturePickUp => { s with mPickUpGestureEnabled := value }
  | .gesturePocket => { s with mPocketGestureEnabled := value }
  | .proximityWakeEnable => { s with mProximityWakeEnabled := value }
  | .other => s

end
end State

inductive Event (F : Type) where
  | screenOff
  | screenOn
  | preferenceChanged (key : Preference) (value : Bool)
  | dozeEnabledChanged (value : Int)
  | proximity (values : List F) (timestamp : Int64)
  | orientation (input : OrientationInput) (values : List F) (clock : Clock)
  | pickUp (values : List F) (clock : Clock)

/-- The event comes from a sensor. -/
def Event.IsSensor {F : Type} : Event F → Prop
  | .proximity _ _ | .orientation _ _ _ | .pickUp _ _ => True
  | _ => False

namespace State

variable {F : Type} [LT F] [DecidableLT F] [Neg F] [OfScientific F]

/-- The handling of an event. A sensor is heard only while it is enabled. -/
def handle (m : SensorManager F) (s : State F) : Event F → Option (State F)
  | .screenOff => some (onDisplayOff m { s with displayOn := false, proximityReport := none })
  | .screenOn => some { s.onDisplayOn m with displayOn := true }
  | .preferenceChanged key value => some (s.onSharedPreferenceChanged key value)
  | .dozeEnabledChanged value => some { s with dozeEnabled := value }
  | .proximity values timestamp =>
    if s.mProximitySensor.mEnabled then some (s.proximityChanged m values timestamp) else none
  | .orientation input values clock =>
    if s.mOrientationSensor.mEnabled then some (s.orientationChanged m input values clock)
    else none
  | .pickUp values clock =>
    if s.mPickUpSensor.mEnabled then s.pickUpChanged m values clock else none

def step (m : SensorManager F) (s : State F) (ev : Event F) : Option (State F) :=
  handle m { s with effects := [] } ev

end State
end Doze
end Huashan
