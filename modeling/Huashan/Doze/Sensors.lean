import Huashan.Run

/-!
# Huashan.Doze.Sensors

The sensors of the doze service: `OrientationSensor.java`, `PickUpSensor.java` and
`ProximitySensor.java`. `F` is `float`; nothing is assumed of its order. A sensor that the device
lacks is never enabled.
-/

namespace Huashan
namespace Doze

/-- What `SensorManager` gives: the sensors of the device, the range of the proximity sensor, and
the pitch and roll of a gravity and a magnetic vector that have a rotation matrix. -/
structure SensorManager (F : Type) where
  hasAccelerometer : Bool
  hasMagneticField : Bool
  hasProximity : Bool
  maximumRange : F
  getOrientation : List F → List F → Option (F × F)

inductive Orientation where
  | unknown
  | faceDown
  | faceUp
  | vertical
  deriving DecidableEq, Repr

inductive PickUp where
  | pickUpUnknown
  | pickUpFalse
  | pickUpTrue
  deriving DecidableEq, Repr

section Readings

variable {F : Type} [LT F] [DecidableLT F] [Neg F] [OfScientific F]

def mathPi14 : F := 0.785398
def mathPi34 : F := 2.35619
def pickUpSafezone : F := 5.0
def pickUpThreshold : F := 6.0

/-- The `mState` of a pitch and a roll, `values[1]` and `values[2]`. -/
def orientationState (pitch roll : F) : Orientation :=
  let mState :=
    if -mathPi14 < pitch ∧ pitch < mathPi14 then
      if -mathPi14 < roll ∧ roll < mathPi14 then Orientation.faceUp
      else if roll < -mathPi34 ∨ mathPi34 < roll then .faceDown
      else .unknown
    else .unknown
  if pitch < -mathPi14 ∨ mathPi14 < pitch ∨ (mathPi14 < roll ∧ roll < mathPi34) ∨
      (-mathPi34 < roll ∧ roll < -mathPi14) then .vertical
  else mState

def isPickUpAbove (x y threshold : F) : Bool :=
  x < -threshold ∨ threshold < x ∨ threshold < y

end Readings

/-! ## The orientation sensor -/

/-- The two sensors that the orientation is made of. -/
inductive OrientationInput where
  | accelerometer
  | magneticField
  deriving DecidableEq, Repr

structure OrientationSensor (F : Type) where
  mEnabled : Bool
  mReady : Bool
  mState : Orientation
  mGravity : Option (List F)
  mMagnetic : Option (List F)
  deriving DecidableEq

namespace OrientationSensor

variable {F : Type} (m : SensorManager F) (o : OrientationSensor F)

def new : OrientationSensor F := ⟨false, false, .unknown, none, none⟩

def isFaceDown : Bool := o.mReady ∧ o.mState = .faceDown

def isVertical : Bool := o.mReady ∧ o.mState = .vertical

def reset : OrientationSensor F :=
  { o with mGravity := none, mMagnetic := none, mReady := false }

def enable : OrientationSensor F :=
  if !o.mEnabled && m.hasAccelerometer && m.hasMagneticField then
    { o.reset with mState := .unknown, mEnabled := true }
  else o

def disable : OrientationSensor F :=
  if o.mEnabled && m.hasAccelerometer && m.hasMagneticField then { o with mEnabled := false }
  else o

/-- The sensor after a reading, and whether it launches an event. -/
def onSensorChanged [LT F] [DecidableLT F] [Neg F] [OfScientific F] (input : OrientationInput)
    (values : List F) : OrientationSensor F × Bool :=
  if values.length = 0 then (o, false)
  else
    let o := match input with
      | .accelerometer => { o with mGravity := some values }
      | .magneticField => { o with mMagnetic := some values }
    match o.mGravity, o.mMagnetic with
    | some gravity, some magnetic =>
      match m.getOrientation gravity magnetic with
      | some (pitch, roll) => ({ o with mState := orientationState pitch roll, mReady := true }, true)
      | none => (o, false)
    | _, _ => (o, false)

end OrientationSensor

/-! ## The pick-up sensor -/

structure PickUpSensor where
  mEnabled : Bool
  mReady : Bool
  mState : PickUp
  deriving DecidableEq, Repr

namespace PickUpSensor

variable {F : Type} (m : SensorManager F) (p : PickUpSensor)

def new : PickUpSensor := ⟨false, false, .pickUpUnknown⟩

def isPickedUp : Bool := p.mReady ∧ p.mState = .pickUpTrue

def reset : PickUpSensor := { p with mReady := false, mState := .pickUpUnknown }

def enable : PickUpSensor :=
  if !p.mEnabled && m.hasAccelerometer then { p.reset with mEnabled := true } else p

def disable : PickUpSensor :=
  if p.mEnabled && m.hasAccelerometer then { p with mEnabled := false } else p

/-- The `mState` after a reading. -/
def nextState [LT F] [DecidableLT F] [Neg F] [OfScientific F] (x y : F) : PickUp :=
  if isPickUpAbove x y pickUpSafezone then
    if isPickUpAbove x y pickUpThreshold then .pickUpTrue else p.mState
  else .pickUpFalse

end PickUpSensor

/-! ## The proximity sensor -/

structure ProximitySensor where
  mEnabled : Bool
  mReady : Bool
  mState : Bool
  deriving DecidableEq, Repr

namespace ProximitySensor

variable {F : Type} (m : SensorManager F) (p : ProximitySensor)

def new : ProximitySensor := ⟨false, false, false⟩

def reset : ProximitySensor := { p with mReady := false, mState := false }

def enable : ProximitySensor :=
  if !p.mEnabled && m.hasProximity then { p with mEnabled := true } else p

def disable : ProximitySensor :=
  if p.mEnabled && m.hasProximity then { p with mEnabled := false } else p

end ProximitySensor

/-! ## A device -/

/-- A device with all sensors, whose orientation is known along the axes. -/
def axisSensors : SensorManager ℚ where
  hasAccelerometer := true
  hasMagneticField := true
  hasProximity := true
  maximumRange := 5
  getOrientation gravity _ :=
    match gravity with
    | [_, y, z] =>
      if 0 < y then some (-1.5708, 0)
      else if z < 0 then some (0, -3.14159)
      else some (0, 0)
    | _ => none

end Doze
end Huashan
