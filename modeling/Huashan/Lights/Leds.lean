import Huashan.Lights.Light

/-!
# Huashan.Lights.Leds

What each function of `Light.cpp` does, in three views of the object:

* `core`: the stored states and the caches. Drawing and programming leave it as it is.
* `leds`: what the nodes of unit `u`, color `c` show, as a pair of brightness and current.
* `seq1`: the state of sequencer 1 and the program in its memory.

`core_setSpeakerLightLockedWith`, `leds_setSpeakerLightLockedWith` and
`seq1_setSpeakerLightLockedWith` say what a whole update does in each of them.
-/

namespace Huashan
namespace Lights

theorem il_inj {u u' c c' : Fin 3} : il u c = il u' c' ↔ u = u' ∧ c = c' := by
  simp only [il, ledsColorsCount, Fin.ext_iff]
  omega

theorem finRange_three : List.finRange 3 = [0, 1, 2] := rfl

/-- What the nodes of unit `u` show when it is drawn. -/
def unitLeds (mLightsState : LedsState) (ledsBrightness : UInt32) (rgb : Fin 3 → UInt32)
    (u : Fin 3) : Fin 3 → UInt32 × UInt32 :=
  fun c => (ledBrightness rgb c, ledCurrent mLightsState ledsBrightness rgb u c)

/-- A color that is 0 is drawn dark, whatever the limits. -/
theorem unitLeds_zero {k : LedsState} {b : UInt32} {rgb : Fin 3 → UInt32} {u c : Fin 3}
    (h : rgb c = 0) : unitLeds k b rgb u c = (0, 0) := by
  have hz : ∀ x : UInt32, 0 / x = 0 := fun x => by
    apply UInt32.toNat_inj.mp
    simp
  simp [unitLeds, ledBrightness, ledCurrent, h, hz]

theorem unitLeds_off (k : LedsState) (b : UInt32) (u : Fin 3) :
    unitLeds k b ledRgbOff u = fun _ => (0, 0) := by
  funext c
  exact unitLeds_zero (by fin_cases c <;> rfl)

namespace Light

/-- The object without its nodes and sequencer states. -/
def core (s : Light) : Light :=
  { s with
    mSequencer1State := .seqUnknown
    mSequencer2State := .seqUnknown
    mSequencer3State := .seqUnknown
    sysfs := ⟨fun _ => 0, fun _ => 0, fun _ => "", fun _ => "", "", fun _ => 0, []⟩ }

def leds (s : Light) (u c : Fin 3) : UInt32 × UInt32 :=
  (s.sysfs.brightness (il u c), s.sysfs.ledCurrent (il u c))

def seq1 (s : Light) : LedsSequencers × String := (s.mSequencer1State, s.sysfs.sequencerLoad)

/-! ## Drawing a unit -/

@[simp] theorem writeLed_mLightsState (s : Light) (k : Fin 9) (b c : UInt32) :
    (s.writeLed k b c).mLightsState = s.mLightsState := rfl

theorem leds_writeLed (s : Light) (u c : Fin 3) (b i : UInt32) (u' c' : Fin 3) :
    (s.writeLed (il u c) b i).leds u' c' = if u' = u ∧ c' = c then (b, i) else s.leds u' c' := by
  by_cases h : u' = u ∧ c' = c
  · obtain ⟨rfl, rfl⟩ := h
    simp [leds, writeLed]
  · have hne : il u' c' ≠ il u c := fun he => h (il_inj.mp he)
    simp [leds, writeLed, Function.update_of_ne hne, h]

theorem core_writeLed (s : Light) (k : Fin 9) (b c : UInt32) :
    (s.writeLed k b c).core = s.core := rfl

@[simp] theorem core_writeLightsLED (s : Light) (u : Fin 3) (rgb : Fin 3 → UInt32) (b : UInt32)
    (upd : LedsRgbUpdate) : (s.writeLightsLED u rgb b upd).core = s.core := by
  cases upd with
  | rgbKeep => rfl
  | rgbWrite =>
    simp only [writeLightsLED, finRange_three, List.foldl_cons, List.foldl_nil, core_writeLed]

@[simp] theorem seq1_writeLightsLED (s : Light) (u : Fin 3) (rgb : Fin 3 → UInt32) (b : UInt32)
    (upd : LedsRgbUpdate) : (s.writeLightsLED u rgb b upd).seq1 = s.seq1 := by
  cases upd <;> rfl

@[simp] theorem writeLightsLED_mLightsState (s : Light) (u : Fin 3) (rgb : Fin 3 → UInt32)
    (b : UInt32) (upd : LedsRgbUpdate) :
    (s.writeLightsLED u rgb b upd).mLightsState = s.mLightsState := by
  cases upd <;> rfl

/-- Drawing a unit sets its nodes and no other. -/
theorem leds_writeLightsLED (s : Light) (u : Fin 3) (rgb : Fin 3 → UInt32) (b : UInt32)
    (u' : Fin 3) : (s.writeLightsLED u rgb b .rgbWrite).leds u' =
      if u' = u then unitLeds s.mLightsState b rgb u else s.leds u' := by
  funext c'
  simp only [writeLightsLED, finRange_three, List.foldl_cons, List.foldl_nil, leds_writeLed,
    writeLed_mLightsState]
  by_cases hu : u' = u
  · subst hu
    fin_cases c' <;> simp [unitLeds]
  · simp [hu]

/-- The units of `us`, drawn one after the other. -/
def drawUnits (s : Light) (us : List (Fin 3)) (rgb : Fin 3 → UInt32) (b : UInt32)
    (upd : LedsRgbUpdate) : Light :=
  us.foldl (fun s u => s.writeLightsLED u rgb b upd) s

theorem core_drawUnits (us : List (Fin 3)) (rgb : Fin 3 → UInt32) (b : UInt32)
    (upd : LedsRgbUpdate) : ∀ s : Light, (s.drawUnits us rgb b upd).core = s.core := by
  induction us with
  | nil => intro s; rfl
  | cons u us ih => intro s; exact (ih _).trans (core_writeLightsLED s u rgb b upd)

theorem seq1_drawUnits (us : List (Fin 3)) (rgb : Fin 3 → UInt32) (b : UInt32)
    (upd : LedsRgbUpdate) : ∀ s : Light, (s.drawUnits us rgb b upd).seq1 = s.seq1 := by
  induction us with
  | nil => intro s; rfl
  | cons u us ih => intro s; exact (ih _).trans (seq1_writeLightsLED s u rgb b upd)

theorem drawUnits_keep (us : List (Fin 3)) (rgb : Fin 3 → UInt32) (b : UInt32) :
    ∀ s : Light, s.drawUnits us rgb b .rgbKeep = s := by
  induction us with
  | nil => intro s; rfl
  | cons u us ih => intro s; exact ih s

theorem leds_drawUnits (us : List (Fin 3)) (rgb : Fin 3 → UInt32) (b : UInt32) :
    ∀ (s : Light) (u : Fin 3), (s.drawUnits us rgb b .rgbWrite).leds u =
      if u ∈ us then unitLeds s.mLightsState b rgb u else s.leds u := by
  induction us with
  | nil => intro s u; rfl
  | cons v us ih =>
    intro s u
    have h := ih (s.writeLightsLED v rgb b .rgbWrite) u
    rw [writeLightsLED_mLightsState, leds_writeLightsLED] at h
    refine h.trans ?_
    by_cases huv : u = v
    · subst huv; simp
    · simp [huv]

/-! ## Programming the sequencer -/

/-- What does not depend on the sequencers is unchanged by `setLightsProgram`. -/
theorem setLightsProgram_frame {α : Type*} {f : Light → α}
    (hf : ∀ (s : Light) (q1 q2 q3 : LedsSequencers) (mode run : Fin 3 → String) (load : String),
      f { s with
          mSequencer1State := q1
          mSequencer2State := q2
          mSequencer3State := q3
          sysfs := { s.sysfs with
            sequencerMode := mode, sequencerRun := run, sequencerLoad := load } } = f s)
    (s : Light) (upd : LedsPUpdate) (t : Nat) (m : Flash) (on off : Int32) :
    f (s.setLightsProgram upd t m on off) = f s := by
  have hwrite : ∀ (s : Light) (n : Fin 3) (mode run : String),
      f (s.writeSequencer n mode run) = f s := fun s n mode run =>
    hf s s.mSequencer1State s.mSequencer2State s.mSequencer3State _ _ s.sysfs.sequencerLoad
  have hprogram : ∀ (s : Light) (t : Nat) (on off : Int32),
      f (s.writeLightsProgram t on off) = f s := fun s t on off =>
    hf s s.mSequencer1State s.mSequencer2State s.mSequencer3State s.sysfs.sequencerMode
      s.sysfs.sequencerRun _
  have h1 : ∀ (s : Light) (q : LedsSequencers), f { s with mSequencer1State := q } = f s :=
    fun s q => hf s q s.mSequencer2State s.mSequencer3State s.sysfs.sequencerMode
      s.sysfs.sequencerRun s.sysfs.sequencerLoad
  have h2 : ∀ (s : Light) (q : LedsSequencers), f { s with mSequencer2State := q } = f s :=
    fun s q => hf s s.mSequencer1State q s.mSequencer3State s.sysfs.sequencerMode
      s.sysfs.sequencerRun s.sysfs.sequencerLoad
  have h3 : ∀ (s : Light) (q : LedsSequencers), f { s with mSequencer3State := q } = f s :=
    fun s q => hf s s.mSequencer1State s.mSequencer2State q s.sysfs.sequencerMode
      s.sysfs.sequencerRun s.sysfs.sequencerLoad
  have hunused : ∀ s : Light, f s.deactivateUnused = f s := by
    intro s
    simp only [deactivateUnused]
    split <;> split <;> simp only [h2, h3, hwrite]
  have hhold : f (s.holdSequencer1 upd t on off) = f s := by
    simp only [holdSequencer1]
    split <;> simp only [h1, hwrite, hprogram]
  have hblink : f (s.blinkSequencer1 upd t on off) = f s := by
    simp only [blinkSequencer1]
    split
    · split <;> split <;> split <;> simp only [h1, hwrite, hprogram]
    · rfl
  cases m with
  | timed => exact (hunused _).trans hblink
  | none => exact (hunused _).trans hhold
  | hardware => exact (hunused _).trans hhold

@[simp] theorem core_setLightsProgram (s : Light) (upd : LedsPUpdate) (t : Nat) (m : Flash)
    (on off : Int32) : (s.setLightsProgram upd t m on off).core = s.core :=
  setLightsProgram_frame (fun _ _ _ _ _ _ _ => rfl) s upd t m on off

@[simp] theorem leds_setLightsProgram (s : Light) (upd : LedsPUpdate) (t : Nat) (m : Flash)
    (on off : Int32) : (s.setLightsProgram upd t m on off).leds = s.leds :=
  setLightsProgram_frame (fun _ _ _ _ _ _ _ => rfl) s upd t m on off

/-- What `setLightsProgram` does to sequencer 1 and its memory. -/
def programSeq1 (q : LedsSequencers × String) (upd : LedsPUpdate) (target : Nat) (flashMode : Flash)
    (on off : Int32) : LedsSequencers × String :=
  if flashMode = .timed then
    if target = 0 then q
    else if upd = .programWrite ∨ q.1 = .seqUnknown then (.seqEnabled, lightsProgram target on off)
    else (.seqEnabled, q.2)
  else if target ≠ 0 ∧ upd = .programWrite then (.seqDisabled, lightsProgram 0 on off)
  else (.seqDisabled, q.2)

theorem seq1_setLightsProgram (s : Light) (upd : LedsPUpdate) (t : Nat) (m : Flash)
    (on off : Int32) :
    (s.setLightsProgram upd t m on off).seq1 = programSeq1 s.seq1 upd t m on off := by
  have hd : ∀ s : Light, s.deactivateUnused.seq1 = s.seq1 := by
    intro s
    simp only [deactivateUnused]
    split <;> split <;> rfl
  have hhold : (s.holdSequencer1 upd t on off).seq1 =
      if t ≠ 0 ∧ upd = .programWrite then (.seqDisabled, lightsProgram 0 on off)
      else (.seqDisabled, s.seq1.2) := by
    by_cases h : t ≠ 0 ∧ upd = .programWrite <;>
      simp [holdSequencer1, ledsSeqBlinkNone, h, seq1, writeLightsProgram, writeSequencerLoad,
        writeSequencer]
  simp only [setLightsProgram, hd, programSeq1]
  cases m with
  | timed =>
    by_cases ht : t = 0
    · simp [blinkSequencer1, ledsSeqBlinkNone, ht]
    · cases hq : s.mSequencer1State <;> cases upd <;>
        simp [blinkSequencer1, ledsSeqBlinkNone, ht, hq, seq1, writeLightsProgram,
          writeSequencerLoad, writeSequencer]
  | none => simpa using hhold
  | hardware => simpa using hhold

/-! ## Caches and choosing the LEDs -/

@[simp] theorem leds_storeCaches (s : Light) (v : LedsLocals) (t : Nat) (b c : UInt32) :
    (s.storeCaches v t b c).leds = s.leds := rfl

@[simp] theorem seq1_storeCaches (s : Light) (v : LedsLocals) (t : Nat) (b c : UInt32) :
    (s.storeCaches v t b c).seq1 = s.seq1 := rfl

/-- The units the displayed state gets. -/
def ledUnits (s : Light) : List (Fin 3) :=
  if isLit s.mBatteryState then
    if s.mLightsState = .ledsBattery then [batteryUnit] else sideUnits
  else List.finRange 3

/-- Unit 1 shows the battery and the side units are off. -/
def Charging (s : Light) : Prop :=
  isLit s.mBatteryState ∧ s.mLightsState = .ledsBattery ∧ ¬ isLit s.mNotificationState

instance (s : Light) : Decidable s.Charging := inferInstanceAs (Decidable (_ ∧ _ ∧ _))

/-- The battery is shown at the fully charged level. -/
def FullyCharged (s : Light) (state : LightState) : Prop :=
  s.Charging ∧ colorBrightness state.color = ledsChargedLevel

instance (s : Light) (state : LightState) : Decidable (s.FullyCharged state) :=
  inferInstanceAs (Decidable (_ ∧ _))

/-- The units, delays and flash mode `state` is displayed with. -/
def effective (s : Light) (state : LightState) : LedsLocals where
  ledsUnitMinid := if isLit s.mBatteryState ∧ s.mLightsState ≠ .ledsBattery then 2 else 1
  ledsUnitMaxid := if isLit s.mBatteryState ∧ s.mLightsState = .ledsBattery then 1 else 3
  delayOn := if s.FullyCharged state then ledsChargedDelayOn else state.flashOnMs
  delayOff := if s.FullyCharged state then ledsChargedDelayOff else state.flashOffMs
  flashMode := if s.FullyCharged state then .timed
    else if state.flashOnMs = 0 ∨ state.flashOffMs = 0 then .none else state.flashMode

theorem chooseLEDs_eq (s : Light) (b : UInt32) (v : LedsLocals) :
    s.chooseLEDs b v = s.useMultipleLEDs b v := by
  have h : lightModeMultipleLeds &&& lightModeMultipleLeds ≠ 0 := by decide
  simp only [chooseLEDs, if_pos h]

theorem ledUnits_ne_nil (s : Light) : s.ledUnits ≠ [] := by
  unfold ledUnits
  split
  · split <;> simp
  · simp

theorem chooseLEDs_snd (s : Light) (state : LightState) :
    (s.chooseLEDs (colorBrightness state.color) (ledsLocals state)).2 = s.effective state := by
  simp only [chooseLEDs_eq, useMultipleLEDs, effective, ledsLocals, FullyCharged, Charging]
  by_cases hb : isLit s.mBatteryState
  · by_cases hk : s.mLightsState = .ledsBattery
    · by_cases hn : isLit s.mNotificationState
      · simp [hb, hk, hn]
      · by_cases h100 : colorBrightness state.color = ledsChargedLevel <;> simp [hb, hk, hn, h100]
    · simp [hb, hk]
  · simp [hb]

theorem units_effective (s : Light) (state : LightState) :
    (s.effective state).units = s.ledUnits := by
  simp only [effective, ledUnits, LedsLocals.units, finRange_three]
  by_cases hb : isLit s.mBatteryState
  · by_cases hk : s.mLightsState = .ledsBattery <;> simp [hb, hk]
  · simp [hb]

@[simp] theorem core_sideLedsOff (s : Light) (m : Flash) : (s.sideLedsOff m).core = s.core := by
  rw [sideLedsOff, core_setLightsProgram]
  exact core_drawUnits [1, 2] ledRgbOff 0 .rgbWrite s

theorem leds_sideLedsOff (s : Light) (m : Flash) (u : Fin 3) :
    (s.sideLedsOff m).leds u = if u = 0 then s.leds 0 else fun _ => (0, 0) := by
  rw [sideLedsOff, leds_setLightsProgram]
  refine (leds_drawUnits [1, 2] ledRgbOff 0 s u).trans ?_
  fin_cases u <;> simp [unitLeds_off]

theorem seq1_sideLedsOff (s : Light) (m : Flash) :
    (s.sideLedsOff m).seq1 = programSeq1 s.seq1 .programKeep 0 m 0 0 := by
  rw [sideLedsOff, seq1_setLightsProgram]
  exact congrArg (programSeq1 · .programKeep 0 m 0 0)
    (seq1_drawUnits sideUnits ledRgbOff 0 .rgbWrite s)

@[simp] theorem core_resetBatteryLED (s : Light) (b : UInt32) :
    (s.resetBatteryLED b).core = s.core := by
  have h := core_writeLightsLED { s with mLightsState := .ledsBattery } batteryUnit
    (ledRgb s.mBatteryState.color) b .rgbWrite
  exact congrArg (fun t : Light => { t with mLightsState := s.mLightsState }) h

@[simp] theorem seq1_resetBatteryLED (s : Light) (b : UInt32) :
    (s.resetBatteryLED b).seq1 = s.seq1 :=
  seq1_writeLightsLED { s with mLightsState := .ledsBattery } batteryUnit
    (ledRgb s.mBatteryState.color) b .rgbWrite

theorem leds_resetBatteryLED (s : Light) (b : UInt32) (u : Fin 3) :
    (s.resetBatteryLED b).leds u =
      if u = 0 then unitLeds .ledsBattery b (ledRgb s.mBatteryState.color) 0 else s.leds u :=
  leds_writeLightsLED { s with mLightsState := .ledsBattery } 0 (ledRgb s.mBatteryState.color) b u

theorem core_chooseLEDs (s : Light) (b : UInt32) (v : LedsLocals) :
    (s.chooseLEDs b v).1.core = s.core := by
  simp only [chooseLEDs_eq, useMultipleLEDs]
  split
  · split
    · split
      · split <;> exact core_sideLedsOff s v.flashMode
      · rfl
    · exact core_resetBatteryLED s b
  · rfl

/-- What the nodes show before the displayed state is drawn. -/
def sideLeds (s : Light) (b : UInt32) (u : Fin 3) : Fin 3 → UInt32 × UInt32 :=
  if s.Charging ∧ u ≠ batteryUnit then fun _ => (0, 0)
  else if isLit s.mBatteryState ∧ s.mLightsState ≠ .ledsBattery ∧ u = batteryUnit then
    unitLeds .ledsBattery b (ledRgb s.mBatteryState.color) batteryUnit
  else s.leds u

theorem leds_chooseLEDs (s : Light) (b : UInt32) (v : LedsLocals) (u : Fin 3) :
    (s.chooseLEDs b v).1.leds u = s.sideLeds b u := by
  simp only [chooseLEDs_eq, useMultipleLEDs, sideLeds, Charging]
  by_cases hb : isLit s.mBatteryState
  · by_cases hk : s.mLightsState = .ledsBattery
    · by_cases hn : isLit s.mNotificationState
      · simp [hb, hk, hn]
      · by_cases h100 : b = ledsChargedLevel <;> by_cases hu : u = 0 <;>
          simp [hb, hk, hn, h100, hu, leds_sideLedsOff]
    · by_cases hu : u = 0 <;> simp [hb, hk, hu, leds_resetBatteryLED]
  · simp [hb]

theorem seq1_chooseLEDs (s : Light) (b : UInt32) (v : LedsLocals) :
    (s.chooseLEDs b v).1.seq1 =
      if s.Charging then programSeq1 s.seq1 .programKeep 0 v.flashMode 0 0 else s.seq1 := by
  simp only [chooseLEDs_eq, useMultipleLEDs, Charging]
  by_cases hb : isLit s.mBatteryState
  · by_cases hk : s.mLightsState = .ledsBattery
    · by_cases hn : isLit s.mNotificationState
      · simp [hb, hk, hn]
      · by_cases h100 : b = ledsChargedLevel <;> simp [hb, hk, hn, h100, seq1_sideLedsOff]
    · simp [hb, hk]
  · simp [hb]

/-! ## A whole update -/

/-- The program target of a request to show `state`. -/
def requestTarget (s : Light) (state : LightState) : Nat :=
  ledsProgramTarget s.ledUnits (ledRgb state.color)

/-- What the caches record of a request to show `state`. -/
def cached (s : Light) (state : LightState) : Light :=
  s.storeCaches (s.effective state) (s.requestTarget state) (colorBrightness state.color)
    state.color

/-- The LED update of a request to show `state`: `leds_rgb_update`. -/
def rgbUpdate (s : Light) (state : LightState) : LedsRgbUpdate :=
  s.ledsRgbUpdate (s.effective state) (s.requestTarget state) (colorBrightness state.color)
    state.color

/-- The program update of a request to show `state`: `leds_program_update`. -/
def programUpdate (s : Light) (state : LightState) : LedsPUpdate :=
  s.ledsProgramUpdate (s.effective state) (s.requestTarget state)

theorem ledsRgbUpdate_chooseLEDs (s : Light) (b : UInt32) (v : LedsLocals) :
    (s.chooseLEDs b v).1.ledsRgbUpdate = s.ledsRgbUpdate :=
  (congrArg ledsRgbUpdate (core_chooseLEDs s b v) :)

theorem ledsProgramUpdate_chooseLEDs (s : Light) (b : UInt32) (v : LedsLocals) :
    (s.chooseLEDs b v).1.ledsProgramUpdate = s.ledsProgramUpdate :=
  (congrArg ledsProgramUpdate (core_chooseLEDs s b v) :)

/-- `setSpeakerLightLocked` with its locals written in terms of the state it starts in. -/
theorem setSpeakerLightLockedWith_eq (pick : LedsRgbUpdate → LedsRgbUpdate) (s : Light)
    (state : LightState) :
    s.setSpeakerLightLockedWith pick state =
      (((s.chooseLEDs (colorBrightness state.color) (ledsLocals state)).1.storeCaches
          (s.effective state) (s.requestTarget state) (colorBrightness state.color)
          state.color).drawUnits s.ledUnits (ledRgb state.color) (colorBrightness state.color)
          (pick (s.rgbUpdate state))).setLightsProgram
        (s.programUpdate state) (s.requestTarget state) (s.effective state).flashMode
        (s.effective state).delayOn (s.effective state).delayOff := by
  rw [rgbUpdate, programUpdate, requestTarget, ← units_effective s state, ← chooseLEDs_snd,
    ← ledsRgbUpdate_chooseLEDs s (colorBrightness state.color) (ledsLocals state),
    ← ledsProgramUpdate_chooseLEDs s (colorBrightness state.color) (ledsLocals state)]
  rfl

theorem core_setSpeakerLightLockedWith (pick : LedsRgbUpdate → LedsRgbUpdate) (s : Light)
    (state : LightState) :
    (s.setSpeakerLightLockedWith pick state).core = (s.cached state).core := by
  rw [setSpeakerLightLockedWith_eq, core_setLightsProgram, core_drawUnits]
  exact (congrArg (storeCaches · (s.effective state) (s.requestTarget state)
    (colorBrightness state.color) state.color)
    (core_chooseLEDs s (colorBrightness state.color) (ledsLocals state)) :)

/-- The units of the displayed state are drawn unless the write is skipped; the others show what
the choice of the LEDs left on them. -/
theorem leds_setSpeakerLightLockedWith (pick : LedsRgbUpdate → LedsRgbUpdate) (s : Light)
    (state : LightState) (u : Fin 3) :
    (s.setSpeakerLightLockedWith pick state).leds u =
      if u ∈ s.ledUnits ∧ pick (s.rgbUpdate state) = .rgbWrite then
        unitLeds s.mLightsState (colorBrightness state.color) (ledRgb state.color) u
      else s.sideLeds (colorBrightness state.color) u := by
  have hk : (s.chooseLEDs (colorBrightness state.color) (ledsLocals state)).1.mLightsState =
      s.mLightsState :=
    (congrArg mLightsState
      (core_chooseLEDs s (colorBrightness state.color) (ledsLocals state)) :)
  have hside := leds_chooseLEDs s (colorBrightness state.color) (ledsLocals state) u
  rw [setSpeakerLightLockedWith_eq, leds_setLightsProgram]
  cases hp : pick (s.rgbUpdate state) with
  | rgbKeep =>
    rw [drawUnits_keep]
    simpa using hside
  | rgbWrite =>
    rw [leds_drawUnits]
    by_cases hu : u ∈ s.ledUnits
    · simp [hu, storeCaches, hk]
    · simpa [hu] using hside

theorem seq1_setSpeakerLightLockedWith (pick : LedsRgbUpdate → LedsRgbUpdate) (s : Light)
    (state : LightState) :
    (s.setSpeakerLightLockedWith pick state).seq1 =
      programSeq1
        (if s.Charging then programSeq1 s.seq1 .programKeep 0 (ledsLocals state).flashMode 0 0
          else s.seq1)
        (s.programUpdate state) (s.requestTarget state) (s.effective state).flashMode
        (s.effective state).delayOn (s.effective state).delayOff := by
  rw [setSpeakerLightLockedWith_eq, seq1_setLightsProgram, seq1_drawUnits]
  exact congrArg (programSeq1 · (s.programUpdate state) _ _ _ _)
    (seq1_chooseLEDs s (colorBrightness state.color) (ledsLocals state))

end Light
end Lights
end Huashan
