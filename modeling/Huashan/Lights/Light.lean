import Huashan.Hex

/-!
# Huashan.Lights.Light

The lights HAL of `hidl/lights`: the object `Light` with its caches, and the AS3665 and AS3677
nodes it writes. A node is the value last written to it (`Sysfs`); every LED write is also kept in
`ledWrites`. LED units are counted from 0 here, so `u` is the source's `i - 1`.

The functions are those of `Light.cpp`, in its order. `setSpeakerLightLocked` is
`setSpeakerLightLockedWith id`; the parameter replaces the computed `leds_rgb_update`, which is
how a skipped LED write is compared with one that is not.
-/

namespace Huashan
namespace Lights

/-- `Flash` of the HAL. Any other value takes the `default` branches, as `hardware` does. -/
inductive Flash where
  | none
  | timed
  | hardware
  deriving DecidableEq, Repr

/-- `Type` of the HAL. -/
inductive LightType where
  | backlight
  | keyboard
  | buttons
  | battery
  | notifications
  | attention
  | bluetooth
  | wifi
  deriving DecidableEq, Repr

inductive Status where
  | success
  | lightNotSupported
  deriving DecidableEq, Repr

structure LightState where
  color : UInt32
  flashMode : Flash
  flashOnMs : Int32
  flashOffMs : Int32
  deriving DecidableEq, Repr

inductive LedsPUpdate where
  | programKeep
  | programWrite
  deriving DecidableEq, Repr

inductive LedsRgbUpdate where
  | rgbKeep
  | rgbWrite
  deriving DecidableEq, Repr

inductive LedsSequencers where
  | seqUnknown
  | seqDisabled
  | seqEnabled
  deriving DecidableEq, Repr

inductive LedsState where
  | ledsOff
  | ledsNotifications
  | ledsBattery
  deriving DecidableEq, Repr

def rgbToBrightness (state : LightState) : UInt32 :=
  let color : UInt32 := state.color &&& 0x00ffffff
  let red : UInt32 := (color >>> 16) &&& 0xff
  let green : UInt32 := (color >>> 8) &&& 0xff
  let blue : UInt32 := color &&& 0xff
  ((77 * red) + (150 * green) + (29 * blue)) >>> 8

def isLit (state : LightState) : Bool := (state.color &&& 0x00ffffff) != 0

/-! ## Constants -/

def ledsColorsCount : Nat := 3
def ledsSeqBlinkNone : Nat := 0
def ledsSeqBlinkRampupSmooth : Nat := 2
def ledsSeqBlinkRampdownSmooth : Nat := 3
/-- 13.0f in the source; `programDelay` says why an integer stands for it. -/
def ledsSeqSecondTime : Nat := 13
def ledsColorsBrightnessMaximum : UInt32 := 255
def ledsColorsCurrentCharging : UInt32 := 127
def ledsColorsCurrentNotifications : UInt32 := 255
def ledsColorsCurrentMaximum : UInt32 := 255
def ledsColorsCurrentRatio : UInt32 := 255
def ledsChargedDelayOff : Int32 := 5000
def ledsChargedDelayOn : Int32 := 5000
def ledsChargedLevel : UInt32 := 100
def ledsCurrents : Fin 3 → Fin 3 → UInt32 := ![![52, 66, 48], ![54, 66, 52], ![50, 66, 46]]
def ledsMap : Fin 3 → Fin 3 → Nat := ![![6, 3, 0], ![7, 4, 1], ![8, 5, 2]]
def ledsSeqModeDisabled : String := "disabled"
def ledsSeqModeActivated : String := "reload"
def ledsSeqRunDisabled : String := "hold"
def ledsSeqRunActivated : String := "run"
def lcdBrightnessMax : UInt32 := 255
def lcdBrightnessMin : UInt32 := 1
def lcdBrightnessOff : UInt32 := 0
def lcdBacklightSlowedSpan : UInt32 := 128
def lcdBacklightSlowedMax : UInt32 := lcdBacklightSlowedSpan / 2
def lcdBacklightAcceleratedReal : UInt32 :=
  lcdBrightnessMax - lcdBacklightSlowedMax - lcdBrightnessMin
def lcdBacklightAcceleratedSpan : UInt32 := lcdBrightnessMax - lcdBacklightSlowedSpan
def lightModeMultipleLeds : UInt32 := 0x01
def lightBrightnessMaximum : UInt32 := 0xFF

/-! ## The object and its nodes -/

/-- Index of unit `u`, color `c` in the arrays of nodes. -/
def il (u c : Fin 3) : Fin 9 := ⟨u.val * ledsColorsCount + c.val, by simp [ledsColorsCount]; omega⟩

/-- What the nodes hold: the value last written, or what they held before the HAL started. -/
structure Sysfs where
  brightness : Fin 9 → UInt32
  ledCurrent : Fin 9 → UInt32
  sequencerMode : Fin 3 → String
  sequencerRun : Fin 3 → String
  sequencerLoad : String
  backlight : Fin 2 → UInt32
  /-- Every write to an LED: its index, brightness and current, the last one first. -/
  ledWrites : List (Fin 9 × UInt32 × UInt32)

structure Light where
  mAttentionState : LightState
  mBatteryState : LightState
  mNotificationState : LightState
  mLightsARGB : UInt32
  mLightsBrightness : UInt32
  mLightsDelayOn : Int32
  mLightsDelayOff : Int32
  mLightsState : LedsState
  mSequencer1State : LedsSequencers
  mSequencer2State : LedsSequencers
  mSequencer3State : LedsSequencers
  mSequencerProgramTarget : Nat
  sysfs : Sysfs

namespace Light

/-- A freshly constructed object. The constructor leaves the three stored states uninitialised,
so they are parameters, as is what the nodes held before. -/
def new (sysfs : Sysfs) (attention battery notification : LightState) : Light where
  mAttentionState := attention
  mBatteryState := battery
  mNotificationState := notification
  mLightsARGB := 0
  mLightsBrightness := 0
  mLightsDelayOn := -1
  mLightsDelayOff := -1
  mLightsState := .ledsOff
  mSequencer1State := .seqUnknown
  mSequencer2State := .seqUnknown
  mSequencer3State := .seqUnknown
  mSequencerProgramTarget := ledsSeqBlinkNone
  sysfs := sysfs

def writeLed (s : Light) (k : Fin 9) (brightness current : UInt32) : Light :=
  { s with sysfs := { s.sysfs with
      brightness := Function.update s.sysfs.brightness k brightness
      ledCurrent := Function.update s.sysfs.ledCurrent k current
      ledWrites := (k, brightness, current) :: s.sysfs.ledWrites } }

def writeSequencer (s : Light) (n : Fin 3) (mode run : String) : Light :=
  { s with sysfs := { s.sysfs with
      sequencerMode := Function.update s.sysfs.sequencerMode n mode
      sequencerRun := Function.update s.sysfs.sequencerRun n run } }

def writeSequencerLoad (s : Light) (buffer : String) : Light :=
  { s with sysfs := { s.sysfs with sequencerLoad := buffer } }

def writeBacklights (s : Light) (brightness : UInt32) : Light :=
  { s with sysfs := { s.sysfs with backlight := fun _ => brightness } }

end Light

/-! ## LED units -/

/-- The share of its current a unit gets. -/
def ledCurrentRatio (mLightsState : LedsState) (ledsBrightness : UInt32) : UInt32 :=
  if mLightsState = .ledsBattery then ledsColorsCurrentCharging
  else if ledsBrightness > 0 then
    let ratio := (ledsColorsCurrentNotifications * ledsBrightness) / lightBrightnessMaximum
    if ratio > ledsColorsCurrentMaximum then ledsColorsCurrentMaximum else ratio
  else ledsColorsCurrentNotifications

/-- The `led_current` written for color `c` of unit `u`. -/
def ledCurrent (mLightsState : LedsState) (ledsBrightness : UInt32) (ledsRgb : Fin 3 → UInt32)
    (u c : Fin 3) : UInt32 :=
  let current := (ledsRgb c * ledCurrentRatio mLightsState ledsBrightness) / ledsColorsCurrentRatio
  let current := (current * ledsCurrents u c) / ledsColorsCurrentMaximum
  if current < 1 ∧ ledsRgb c > 0 then 1 else current

/-- The `brightness` written for color `c`. -/
def ledBrightness (ledsRgb : Fin 3 → UInt32) (c : Fin 3) : UInt32 :=
  if ledsRgb c ≠ 0 then ledsColorsBrightnessMaximum else 0

def Light.writeLightsLED (s : Light) (u : Fin 3) (ledsRgb : Fin 3 → UInt32)
    (ledsBrightness : UInt32) : LedsRgbUpdate → Light
  | .rgbKeep => s
  | .rgbWrite => (List.finRange 3).foldl (fun s c =>
      s.writeLed (il u c) (ledBrightness ledsRgb c)
        (ledCurrent s.mLightsState ledsBrightness ledsRgb u c)) s

/-! ## The sequencer -/

/-- `min((uint32_t)((13.0f * (float)delay) / 1000.0), 63)`. The float product is exact while it is
below `2^24`, past that the value is clamped; a negative product is converted to 0 by the target's
saturating `vcvt`. -/
def programDelay (delay : Int32) : Nat := min (ledsSeqSecondTime * delay.toInt.toNat / 1000) 63

/-- `LEDS_SEQ_LOAD_PROGRAM` with its five arguments. -/
def ledsSeqLoadProgram (rampUp on rampDown off target : Nat) : String :=
  "000e0e9d009c0e9c8f9d80" ++ formatHex 2 rampUp ++ "ff9dc0" ++ formatHex 2 on ++ "ff9d80" ++
    formatHex 2 rampDown ++ "ff9dc0" ++ formatHex 2 off ++ "ff9d80a004c00000000" ++
    formatHex 3 target

/-- The string `writeLightsProgram` sends. -/
def lightsProgram (ledsProgramTarget : Nat) (delayOn delayOff : Int32) : String :=
  ledsSeqLoadProgram (min ledsSeqBlinkRampupSmooth 255 &&& 0b11111110) (programDelay delayOn)
    (min ledsSeqBlinkRampdownSmooth 255 ||| 0b00000001) (programDelay delayOff) ledsProgramTarget

namespace Light

def writeLightsProgram (s : Light) (ledsProgramTarget : Nat) (delayOn delayOff : Int32) : Light :=
  s.writeSequencerLoad (lightsProgram ledsProgramTarget delayOn delayOff)

/-- The `Flash::TIMED` case of `setLightsProgram`. -/
def blinkSequencer1 (s : Light) (ledsProgramUpdate : LedsPUpdate) (ledsProgramTarget : Nat)
    (delayOn delayOff : Int32) : Light :=
  if ledsProgramTarget ≠ ledsSeqBlinkNone then
    let ledsProgramUpdate :=
      if s.mSequencer1State = .seqUnknown then .programWrite else ledsProgramUpdate
    let s := if ledsProgramUpdate = .programWrite then
        { s.writeLightsProgram ledsProgramTarget delayOn delayOff with
          mSequencer1State := .seqDisabled }
      else s
    if s.mSequencer1State ≠ .seqEnabled then
      { s.writeSequencer 0 ledsSeqModeActivated ledsSeqRunActivated with
        mSequencer1State := .seqEnabled }
    else s
  else s

/-- The `Flash::NONE` and `default` case of `setLightsProgram`. -/
def holdSequencer1 (s : Light) (ledsProgramUpdate : LedsPUpdate) (ledsProgramTarget : Nat)
    (delayOn delayOff : Int32) : Light :=
  let s := if ledsProgramTarget ≠ ledsSeqBlinkNone ∧ ledsProgramUpdate = .programWrite then
      s.writeLightsProgram ledsSeqBlinkNone delayOn delayOff
    else s
  { s.writeSequencer 0 ledsSeqModeDisabled ledsSeqRunDisabled with
    mSequencer1State := .seqDisabled }

/-- The end of `setLightsProgram`: the sequencers 2 and 3 are not used. -/
def deactivateUnused (s : Light) : Light :=
  let s := if s.mSequencer2State ≠ .seqDisabled then
      { s.writeSequencer 1 ledsSeqModeDisabled ledsSeqRunDisabled with
        mSequencer2State := .seqDisabled }
    else s
  if s.mSequencer3State ≠ .seqDisabled then
    { s.writeSequencer 2 ledsSeqModeDisabled ledsSeqRunDisabled with
      mSequencer3State := .seqDisabled }
  else s

def setLightsProgram (s : Light) (ledsProgramUpdate : LedsPUpdate) (ledsProgramTarget : Nat)
    (flashMode : Flash) (delayOn delayOff : Int32) : Light :=
  deactivateUnused <| match flashMode with
    | .timed => s.blinkSequencer1 ledsProgramUpdate ledsProgramTarget delayOn delayOff
    | _ => s.holdSequencer1 ledsProgramUpdate ledsProgramTarget delayOn delayOff

end Light

/-! ## `setSpeakerLightLocked` -/

/-- `led_rgb`: the red, green and blue bytes of a color. -/
def ledRgb (color : UInt32) : Fin 3 → UInt32 :=
  ![(color >>> 16) &&& 0xFF, (color >>> 8) &&& 0xFF, color &&& 0xFF]

def ledRgbOff : Fin 3 → UInt32 := ![0, 0, 0]

/-- The brightness byte of a color. -/
def colorBrightness (color : UInt32) : UInt32 := (color &&& 0xFF000000) >>> 24

/-- The local variables that the choice of the LEDs changes. -/
structure LedsLocals where
  ledsUnitMinid : Nat
  ledsUnitMaxid : Nat
  delayOn : Int32
  delayOff : Int32
  flashMode : Flash
  deriving DecidableEq, Repr

/-- The units from `leds_unit_minid` to `leds_unit_maxid`. -/
def LedsLocals.units (v : LedsLocals) : List (Fin 3) :=
  (List.finRange 3).filter fun u => v.ledsUnitMinid ≤ u.val + 1 ∧ u.val + 1 ≤ v.ledsUnitMaxid

/-- The locals before the choice of the LEDs: all units, and no flashing with an empty delay. -/
def ledsLocals (state : LightState) : LedsLocals where
  ledsUnitMinid := 1
  ledsUnitMaxid := 3
  delayOn := state.flashOnMs
  delayOff := state.flashOffMs
  flashMode := if state.flashOnMs = 0 ∨ state.flashOffMs = 0 then .none else state.flashMode

/-- `leds_program_target`: the bits of the units `us` for the colors that are not 0. -/
def ledsProgramTarget (us : List (Fin 3)) (rgb : Fin 3 → UInt32) : Nat :=
  (List.finRange 3).foldl (fun target c =>
    if rgb c > 0 then us.foldl (fun target u => target ||| 1 <<< ledsMap u c) target
    else target) ledsSeqBlinkNone

/-- The unit that shows the battery under a notification. -/
abbrev batteryUnit : Fin 3 := 0

/-- Units 2 and 3. -/
abbrev sideUnits : List (Fin 3) := [1, 2]

namespace Light

/-- Units 2 and 3 off, sequencer held or left as it is. -/
def sideLedsOff (s : Light) (flashMode : Flash) : Light :=
  let s := sideUnits.foldl (fun s u => s.writeLightsLED u ledRgbOff 0 .rgbWrite) s
  s.setLightsProgram .programKeep ledsSeqBlinkNone flashMode 0 0

/-- Unit 1 shows the battery, at the battery's current ratio. -/
def resetBatteryLED (s : Light) (ledsBrightness : UInt32) : Light :=
  let current := s.mLightsState
  let s := { s with mLightsState := .ledsBattery }
  let s := s.writeLightsLED batteryUnit (ledRgb s.mBatteryState.color) ledsBrightness .rgbWrite
  { s with mLightsState := current }

/-- The `LIGHT_MODE_MULTIPLE_LEDS` branch: with the battery lit, unit 1 is for the battery. -/
def useMultipleLEDs (s : Light) (ledsBrightness : UInt32) (v : LedsLocals) : Light × LedsLocals :=
  if isLit s.mBatteryState then
    if s.mLightsState = .ledsBattery then
      let v := { v with ledsUnitMaxid := 1 }
      if !isLit s.mNotificationState then
        let s := s.sideLedsOff v.flashMode
        if ledsBrightness = ledsChargedLevel then
          (s, { v with delayOff := ledsChargedDelayOff, delayOn := ledsChargedDelayOn,
                       flashMode := .timed })
        else (s, v)
      else (s, v)
    else
      (s.resetBatteryLED ledsBrightness, { v with ledsUnitMinid := 2 })
  else (s, v)

/-- The single LED branch; `leds_modes` never selects it. -/
def useSingleLED (s : Light) (v : LedsLocals) : Light × LedsLocals :=
  (s.sideLedsOff v.flashMode, { v with ledsUnitMinid := 1, ledsUnitMaxid := 1 })

def chooseLEDs (s : Light) (ledsBrightness : UInt32) (v : LedsLocals) : Light × LedsLocals :=
  let ledsModes := lightModeMultipleLeds
  if ledsModes &&& lightModeMultipleLeds ≠ 0 then s.useMultipleLEDs ledsBrightness v
  else s.useSingleLED v

/-- Detection of the delays and target updates: `leds_program_update`. -/
def ledsProgramUpdate (s : Light) (v : LedsLocals) (target : Nat) : LedsPUpdate :=
  if target ≠ s.mSequencerProgramTarget then .programWrite
  else if v.delayOn ≠ s.mLightsDelayOn ∨ v.delayOff ≠ s.mLightsDelayOff then
    if v.flashMode = .timed then .programWrite else .programKeep
  else .programKeep

/-- Detection of the delays, target, brightness and color updates: `leds_rgb_update`. -/
def ledsRgbUpdate (s : Light) (v : LedsLocals) (target : Nat) (ledsBrightness colorARGB : UInt32) :
    LedsRgbUpdate :=
  if (v.delayOn ≠ s.mLightsDelayOn ∨ v.delayOff ≠ s.mLightsDelayOff) ∧ v.flashMode ≠ .timed then
    .rgbWrite
  else if target ≠ s.mSequencerProgramTarget then .rgbWrite
  else if ledsBrightness ≠ s.mLightsBrightness then .rgbWrite
  else if colorARGB ≠ s.mLightsARGB then .rgbWrite
  else .rgbKeep

/-- The new delays and the global LEDs variables. -/
def storeCaches (s : Light) (v : LedsLocals) (target : Nat) (ledsBrightness colorARGB : UInt32) :
    Light :=
  { s with
    mLightsDelayOn := v.delayOn
    mLightsDelayOff := v.delayOff
    mLightsBrightness := ledsBrightness
    mSequencerProgramTarget := target
    mLightsARGB := colorARGB }

def setSpeakerLightLockedWith (pick : LedsRgbUpdate → LedsRgbUpdate) (s : Light)
    (state : LightState) : Light :=
  let colorARGB := state.color
  let ledsBrightness := colorBrightness colorARGB
  let rgb := ledRgb colorARGB
  let (s, v) := s.chooseLEDs ledsBrightness (ledsLocals state)
  let target := ledsProgramTarget v.units rgb
  let programUpdate := s.ledsProgramUpdate v target
  let rgbUpdate := pick (s.ledsRgbUpdate v target ledsBrightness colorARGB)
  let s := s.storeCaches v target ledsBrightness colorARGB
  let s := v.units.foldl (fun s u => s.writeLightsLED u rgb ledsBrightness rgbUpdate) s
  s.setLightsProgram programUpdate target v.flashMode v.delayOn v.delayOff

def setSpeakerLightLocked (s : Light) (state : LightState) : Light :=
  s.setSpeakerLightLockedWith id state

def setSpeakerBatteryLightLockedWith (pick : LedsRgbUpdate → LedsRgbUpdate) (s : Light) : Light :=
  if isLit s.mNotificationState then
    { s with mLightsState := .ledsNotifications }.setSpeakerLightLockedWith pick
      s.mNotificationState
  else if isLit s.mAttentionState then
    s.setSpeakerLightLockedWith pick s.mAttentionState
  else
    { s with mLightsState := .ledsBattery }.setSpeakerLightLockedWith pick s.mBatteryState

def setSpeakerBatteryLightLocked (s : Light) : Light := s.setSpeakerBatteryLightLockedWith id

/-! ## The calls of the HAL -/

/-- The brightness `setBacklight` writes. -/
def backlightBrightness (state : LightState) : UInt32 :=
  let brightness := rgbToBrightness state
  let brightness :=
    if brightness ≤ lcdBrightnessOff then lcdBrightnessOff
    else if brightness < lcdBrightnessMin then lcdBrightnessMin
    else if brightness > lcdBrightnessMax then lcdBrightnessMax
    else brightness
  if brightness ≠ lcdBrightnessOff then
    if brightness < lcdBacklightSlowedSpan then lcdBrightnessMin + brightness / 2
    else lcdBrightnessMin + lcdBacklightSlowedMax +
      ((brightness - lcdBacklightSlowedSpan) * lcdBacklightAcceleratedReal) /
        lcdBacklightAcceleratedSpan
  else brightness

def setBacklight (s : Light) (state : LightState) : Light :=
  s.writeBacklights (backlightBrightness state)

def setAttentionLight (pick : LedsRgbUpdate → LedsRgbUpdate) (s : Light) (state : LightState) :
    Light :=
  { s with mAttentionState := state }.setSpeakerBatteryLightLockedWith pick

def setBatteryLight (pick : LedsRgbUpdate → LedsRgbUpdate) (s : Light) (state : LightState) :
    Light :=
  { s with mBatteryState := state }.setSpeakerBatteryLightLockedWith pick

def setNotificationLight (pick : LedsRgbUpdate → LedsRgbUpdate) (s : Light) (state : LightState) :
    Light :=
  { s with mNotificationState := state }.setSpeakerBatteryLightLockedWith pick

def setLightWith (pick : LedsRgbUpdate → LedsRgbUpdate) (s : Light) (type : LightType)
    (state : LightState) : Light × Status :=
  match type with
  | .attention => (s.setAttentionLight pick state, .success)
  | .backlight => (s.setBacklight state, .success)
  | .battery => (s.setBatteryLight pick state, .success)
  | .notifications => (s.setNotificationLight pick state, .success)
  | _ => (s, .lightNotSupported)

def setLight (s : Light) (type : LightType) (state : LightState) : Light × Status :=
  s.setLightWith id type state

/-- One call of `setLight`, as a step of a run. -/
def call (s : Light) (c : LightType × LightState) : Light := (s.setLight c.1 c.2).1

/-- The same call with `leds_rgb_update` forced to `LEDS_RGB_WRITE`. -/
def callWriting (s : Light) (c : LightType × LightState) : Light :=
  (s.setLightWith (fun _ => .rgbWrite) c.1 c.2).1

end Light
end Lights
end Huashan
