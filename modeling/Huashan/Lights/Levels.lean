import Huashan.Lights.History

/-!
# Huashan.Lights.Levels

The levels the HAL writes, as numbers. The machine computes them in words of 32 bits; here every
product is shown to stay below `2^32`, so that the words are the integers they stand for.

* `call_ledCurrents`: the writes of a call to the LED nodes and the limits of their currents.
* `setBacklight_monotone`: the backlight as a function of the color.
-/

namespace Huashan
namespace Lights

theorem toNat_mul_of_bytes {a b : UInt32} (ha : a.toNat ≤ 255) (hb : b.toNat ≤ 255) :
    (a * b).toNat = a.toNat * b.toNat := by
  have hmul : a.toNat * b.toNat ≤ 255 * 255 := Nat.mul_le_mul ha hb
  rw [UInt32.toNat_mul]
  exact Nat.mod_eq_of_lt (by omega)

/-- A byte scaled by a byte is at most either of them. -/
theorem mul_div_byte_le {a : Nat} (ha : a ≤ 255) (b : Nat) : a * b / 255 ≤ b := by
  have hmul : a * b ≤ 255 * b := Nat.mul_le_mul_right b ha
  omega

theorem ledRgb_le (color : UInt32) (c : Fin 3) : (ledRgb color c).toNat ≤ 255 := by
  rw [ledRgb_toNat]
  omega

theorem ledRgbOff_eq_zero (c : Fin 3) : ledRgbOff c = 0 := by
  fin_cases c <;> rfl

theorem colorBrightness_le (color : UInt32) : (colorBrightness color).toNat ≤ 255 := by
  have hlt := color.toNat_lt
  have hand : color.toNat &&& 0xFF000000 ≤ color.toNat := Nat.and_le_left
  simp only [colorBrightness, UInt32.toNat_shiftRight, UInt32.toNat_and, UInt32.reduceToNat,
    Nat.reduceMod, Nat.shiftRight_eq_div_pow]
  omega

theorem ledsCurrents_bounds : ∀ u c : Fin 3,
    1 ≤ (ledsCurrents u c).toNat ∧ (ledsCurrents u c).toNat ≤ 66 := by decide

/-! ## Calls of `writeLightsLED` -/

/-- A call of `writeLightsLED` that writes: its arguments and the `mLightsState` it is made in. -/
structure LedCall where
  mLightsState : LedsState
  unit : Fin 3
  ledsRgb : Fin 3 → UInt32
  ledsBrightness : UInt32

namespace LedCall

def ratio (k : LedCall) : UInt32 := ledCurrentRatio k.mLightsState k.ledsBrightness

/-- What is written to `brightness` of channel `c`. -/
def brightness (k : LedCall) (c : Fin 3) : UInt32 := ledBrightness k.ledsRgb c

/-- What is written to `led_current` of channel `c`. -/
def current (k : LedCall) (c : Fin 3) : UInt32 :=
  ledCurrent k.mLightsState k.ledsBrightness k.ledsRgb k.unit c

/-- The writes of the call, on top of earlier ones. -/
def log (writes : List (Fin 9 × UInt32 × UInt32)) (k : LedCall) :
    List (Fin 9 × UInt32 × UInt32) :=
  (List.finRange 3).foldl (fun writes c => (il k.unit c, k.brightness c, k.current c) :: writes)
    writes

/-- The arguments are bytes. -/
structure Bytes (k : LedCall) : Prop where
  rgb : ∀ c, (k.ledsRgb c).toNat ≤ 255
  brightness : k.ledsBrightness.toNat ≤ 255

/-- The three products for channel `c` do not wrap. -/
structure Exact (k : LedCall) (c : Fin 3) : Prop where
  ratio : (ledsColorsCurrentNotifications * k.ledsBrightness).toNat =
    ledsColorsCurrentNotifications.toNat * k.ledsBrightness.toNat
  scaled : (k.ledsRgb c * k.ratio).toNat = (k.ledsRgb c).toNat * k.ratio.toNat
  limited : (k.ledsRgb c * k.ratio / ledsColorsCurrentRatio * ledsCurrents k.unit c).toNat =
    (k.ledsRgb c * k.ratio / ledsColorsCurrentRatio).toNat * (ledsCurrents k.unit c).toNat

/-- The current of channel `c` stays within its limit, and flows when the channel is lit. -/
structure Limited (k : LedCall) (c : Fin 3) : Prop where
  le : k.current c ≤ ledsCurrents k.unit c
  lit : 1 ≤ k.current c ↔ k.brightness c = ledsColorsBrightnessMaximum
  dark : k.brightness c ≠ ledsColorsBrightnessMaximum → k.brightness c = 0 ∧ k.current c = 0

variable {k : LedCall}

theorem Bytes.ratio_le (h : k.Bytes) : k.ratio.toNat ≤ 255 := by
  have hmul : (ledsColorsCurrentNotifications * k.ledsBrightness).toNat =
      255 * k.ledsBrightness.toNat := toNat_mul_of_bytes (by decide) h.brightness
  have hb := h.brightness
  simp only [ratio, ledCurrentRatio]
  split
  · decide
  · split
    · split
      · decide
      · simp only [lightBrightnessMaximum, UInt32.toNat_div, hmul, UInt32.reduceToNat]
        omega
    · decide

theorem Bytes.exact (h : k.Bytes) (c : Fin 3) : k.Exact c := by
  have hscaled := toNat_mul_of_bytes (h.rgb c) h.ratio_le
  refine ⟨toNat_mul_of_bytes (by decide) h.brightness, hscaled, toNat_mul_of_bytes ?_ ?_⟩
  · have hle := mul_div_byte_le (h.rgb c) k.ratio.toNat
    have hratio := h.ratio_le
    simp only [ledsColorsCurrentRatio, UInt32.toNat_div, hscaled, UInt32.reduceToNat]
    omega
  · have hlimit := (ledsCurrents_bounds k.unit c).2
    omega

/-- The current before the minimum is forced. -/
def share (k : LedCall) (c : Fin 3) : Nat :=
  (k.ledsRgb c).toNat * k.ratio.toNat / 255 * (ledsCurrents k.unit c).toNat / 255

theorem Bytes.current_toNat (h : k.Bytes) (c : Fin 3) :
    (k.current c).toNat =
      if k.share c < 1 ∧ 0 < (k.ledsRgb c).toNat then 1 else k.share c := by
  have hexact := h.exact c
  have hshare : (k.ledsRgb c * k.ratio / ledsColorsCurrentRatio * ledsCurrents k.unit c /
      ledsColorsCurrentMaximum).toNat = k.share c := by
    rw [UInt32.toNat_div, hexact.limited, UInt32.toNat_div, hexact.scaled]
    rfl
  have hlt : k.ledsRgb c * k.ratio / ledsColorsCurrentRatio * ledsCurrents k.unit c /
      ledsColorsCurrentMaximum < 1 ↔ k.share c < 1 := by
    rw [UInt32.lt_iff_toNat_lt, hshare]
    rfl
  have hpos : k.ledsRgb c > 0 ↔ 0 < (k.ledsRgb c).toNat := UInt32.lt_iff_toNat_lt
  have hcurrent : k.current c = if k.ledsRgb c * k.ratio / ledsColorsCurrentRatio *
      ledsCurrents k.unit c / ledsColorsCurrentMaximum < 1 ∧ k.ledsRgb c > 0 then 1
      else k.ledsRgb c * k.ratio / ledsColorsCurrentRatio * ledsCurrents k.unit c /
        ledsColorsCurrentMaximum := rfl
  simp only [hcurrent, hlt, hpos]
  split
  · rfl
  · exact hshare

theorem Bytes.share_le (h : k.Bytes) (c : Fin 3) : k.share c ≤ (ledsCurrents k.unit c).toNat := by
  have hle := mul_div_byte_le (h.rgb c) k.ratio.toNat
  exact mul_div_byte_le (hle.trans h.ratio_le) _

theorem Bytes.limited (h : k.Bytes) (c : Fin 3) : k.Limited c := by
  have hcurrent := h.current_toNat c
  have hshare := h.share_le c
  have hone := (ledsCurrents_bounds k.unit c).1
  by_cases hzero : k.ledsRgb c = 0
  · have hdark : k.current c = 0 := by
      have := congrArg Prod.snd
        (unitLeds_zero (k := k.mLightsState) (b := k.ledsBrightness) (u := k.unit) hzero)
      exact this
    have hbright : k.brightness c = 0 := by
      simp [LedCall.brightness, ledBrightness, hzero]
    refine ⟨?_, ?_, fun _ => ⟨hbright, hdark⟩⟩
    · rw [hdark]
      exact UInt32.zero_le
    · rw [hdark, hbright]
      decide
  · have hbright : k.brightness c = ledsColorsBrightnessMaximum := by
      simp [LedCall.brightness, ledBrightness, hzero]
    have hpos : 0 < (k.ledsRgb c).toNat := by
      have hne : (k.ledsRgb c).toNat ≠ 0 := fun he => hzero (UInt32.toNat_inj.mp he)
      omega
    refine ⟨?_, ?_, fun hne => absurd hbright hne⟩
    · rw [UInt32.le_iff_toNat_le, hcurrent]
      split <;> omega
    · refine ⟨fun _ => hbright, fun _ => ?_⟩
      rw [UInt32.le_iff_toNat_le, hcurrent]
      have hmin : (1 : UInt32).toNat = 1 := rfl
      rw [hmin]
      split <;> omega

end LedCall

namespace Light

/-- The calls of `writeLightsLED` a call of `setLight` makes that write: the side units turned off
or unit 1 for the battery, then the units of the displayed state. -/
def ledCalls (s : Light) (c : LightType × LightState) : List LedCall :=
  let t := s.prepared c
  let color := t.displayed.color
  if c.1.isLed then
    (if t.Charging then sideUnits.map fun u => ⟨t.mLightsState, u, ledRgbOff, 0⟩
      else if isLit t.mBatteryState ∧ t.mLightsState ≠ .ledsBattery then
        [⟨.ledsBattery, batteryUnit, ledRgb t.mBatteryState.color, colorBrightness color⟩]
      else []) ++
    (if t.rgbUpdate t.displayed = .rgbWrite then
        t.ledUnits.map fun u => ⟨t.mLightsState, u, ledRgb color, colorBrightness color⟩
      else [])
  else []

theorem ledWrites_writeLightsLED (s : Light) (u : Fin 3) (rgb : Fin 3 → UInt32) (b : UInt32) :
    (s.writeLightsLED u rgb b .rgbWrite).sysfs.ledWrites =
      LedCall.log s.sysfs.ledWrites ⟨s.mLightsState, u, rgb, b⟩ := rfl

theorem ledWrites_drawUnits (rgb : Fin 3 → UInt32) (b : UInt32) (us : List (Fin 3)) :
    ∀ s : Light, (s.drawUnits us rgb b .rgbWrite).sysfs.ledWrites =
      (us.map fun u => ⟨s.mLightsState, u, rgb, b⟩).foldl LedCall.log s.sysfs.ledWrites := by
  induction us with
  | nil => intro s; rfl
  | cons u us ih =>
    intro s
    have h := ih (s.writeLightsLED u rgb b .rgbWrite)
    rw [writeLightsLED_mLightsState, ledWrites_writeLightsLED] at h
    exact h

theorem ledWrites_setLightsProgram (s : Light) (upd : LedsPUpdate) (t : Nat) (m : Flash)
    (on off : Int32) :
    (s.setLightsProgram upd t m on off).sysfs.ledWrites = s.sysfs.ledWrites :=
  setLightsProgram_frame (f := fun s => s.sysfs.ledWrites) (fun _ _ _ _ _ _ _ => rfl) s upd t m
    on off

theorem ledWrites_sideLedsOff (s : Light) (m : Flash) : (s.sideLedsOff m).sysfs.ledWrites =
    (sideUnits.map fun u => ⟨s.mLightsState, u, ledRgbOff, 0⟩).foldl LedCall.log
      s.sysfs.ledWrites := by
  rw [sideLedsOff, ledWrites_setLightsProgram]
  exact ledWrites_drawUnits ledRgbOff 0 sideUnits s

/-- The writes of the choice of the LEDs. -/
theorem ledWrites_chooseLEDs (s : Light) (b : UInt32) (v : LedsLocals) :
    (s.chooseLEDs b v).1.sysfs.ledWrites =
      (if s.Charging then sideUnits.map fun u => ⟨s.mLightsState, u, ledRgbOff, 0⟩
        else if isLit s.mBatteryState ∧ s.mLightsState ≠ .ledsBattery then
          [⟨.ledsBattery, batteryUnit, ledRgb s.mBatteryState.color, b⟩]
        else []).foldl LedCall.log s.sysfs.ledWrites := by
  have hside := ledWrites_sideLedsOff s v.flashMode
  simp only [chooseLEDs_eq, useMultipleLEDs, Charging]
  by_cases hb : isLit s.mBatteryState
  · by_cases hk : s.mLightsState = .ledsBattery
    · by_cases hn : isLit s.mNotificationState
      · simp [hb, hk, hn]
      · rw [hk] at hside
        by_cases h100 : b = ledsChargedLevel <;> simpa [hb, hk, hn, h100] using hside
    · simp only [hb, hk, if_true, if_false, false_and, and_false, true_and, ne_eq,
        not_false_eq_true]
      rfl
  · simp [hb]

/-- A call writes what its calls of `writeLightsLED` write, in this order. -/
theorem ledWrites_call (s : Light) (c : LightType × LightState) :
    (s.call c).sysfs.ledWrites = (s.ledCalls c).foldl LedCall.log s.sysfs.ledWrites := by
  cases hc : c.1.isLed with
  | false =>
    obtain ⟨brightness, hcall⟩ := call_not_led s hc
    simp [hcall, ledCalls, hc]
  | true =>
    have hprepared : (s.prepared c).sysfs.ledWrites = s.sysfs.ledWrites := by
      obtain ⟨type, state⟩ := c
      cases type <;> rfl
    have hchoose := ledWrites_chooseLEDs (s.prepared c)
      (colorBrightness (s.prepared c).displayed.color) (ledsLocals (s.prepared c).displayed)
    have hk : ((s.prepared c).chooseLEDs (colorBrightness (s.prepared c).displayed.color)
        (ledsLocals (s.prepared c).displayed)).1.mLightsState = (s.prepared c).mLightsState :=
      (congrArg mLightsState (core_chooseLEDs (s.prepared c) _ _) :)
    rw [hprepared] at hchoose
    rw [call_led s hc, setSpeakerLightLockedWith_eq, ledWrites_setLightsProgram]
    simp only [id, ledCalls, hc, if_true, List.foldl_append, ← hchoose]
    cases (s.prepared c).rgbUpdate (s.prepared c).displayed with
    | rgbKeep =>
      rw [drawUnits_keep]
      rfl
    | rgbWrite =>
      rw [ledWrites_drawUnits, if_pos rfl]
      exact congrArg (fun k : LedsState => List.foldl LedCall.log _
        ((s.prepared c).ledUnits.map fun u => ⟨k, u, _, _⟩)) hk

theorem bytes_ledCalls (s : Light) (c : LightType × LightState) :
    ∀ k ∈ s.ledCalls c, k.Bytes := by
  intro k hk
  have hoff : ∀ c, (ledRgbOff c).toNat ≤ 255 := fun c => by simp [ledRgbOff_eq_zero]
  simp only [ledCalls] at hk
  split at hk
  · rcases List.mem_append.mp hk with hside | hunits
    · split at hside
      · obtain ⟨u, _, rfl⟩ := List.mem_map.mp hside
        exact ⟨hoff, by simp⟩
      · split at hside
        · rw [List.mem_singleton.mp hside]
          exact ⟨ledRgb_le _, colorBrightness_le _⟩
        · cases hside
    · split at hunits
      · obtain ⟨u, _, rfl⟩ := List.mem_map.mp hunits
        exact ⟨ledRgb_le _, colorBrightness_le _⟩
      · cases hunits
  · cases hk

/-- In every reachable state, a call of `setLight` writes to the LED nodes what its calls of
`writeLightsLED` write; each current is within the limit of its node, at least 1 exactly for a lit
channel and 0 for a dark one, and no product in between wraps. -/
theorem call_ledCurrents (sysfs : Sysfs) (attention battery notification : LightState)
    (cs : List (LightType × LightState)) (c : LightType × LightState) :
    ((run sysfs attention battery notification cs).call c).sysfs.ledWrites =
        ((run sysfs attention battery notification cs).ledCalls c).foldl LedCall.log
          (run sysfs attention battery notification cs).sysfs.ledWrites ∧
      ∀ k ∈ (run sysfs attention battery notification cs).ledCalls c, ∀ channel,
        k.Limited channel ∧ k.Exact channel := by
  refine ⟨ledWrites_call _ c, fun k hk channel => ?_⟩
  have hbytes := bytes_ledCalls _ c k hk
  exact ⟨hbytes.limited channel, hbytes.exact channel⟩

end Light

/-! ## The backlight -/

namespace Light

/-- The brightness within the limits of the display: the first half of `setBacklight`. -/
def limitedBrightness (state : LightState) : UInt32 :=
  let brightness := rgbToBrightness state
  if brightness ≤ lcdBrightnessOff then lcdBrightnessOff
  else if brightness < lcdBrightnessMin then lcdBrightnessMin
  else if brightness > lcdBrightnessMax then lcdBrightnessMax
  else brightness

/-- The luminance: the weights of the channels add up to 256. -/
theorem rgbToBrightness_toNat (state : LightState) : (rgbToBrightness state).toNat =
    (77 * (ledRgb state.color 0).toNat + 150 * (ledRgb state.color 1).toNat +
      29 * (ledRgb state.color 2).toNat) / 256 := by
  have hmask : ∀ n : Nat, n &&& 255 = n % 256 := fun n => Nat.and_two_pow_sub_one_eq_mod n 8
  have hmask24 : ∀ n : Nat, n &&& 16777215 = n % 16777216 :=
    fun n => Nat.and_two_pow_sub_one_eq_mod n 24
  have hred : ((state.color &&& 0x00ffffff) >>> 16 &&& 0xff) = ledRgb state.color 0 := by
    apply UInt32.toNat_inj.mp
    rw [ledRgb_toNat]
    simp [hmask, hmask24, Nat.shiftRight_eq_div_pow]
    omega
  have hgreen : ((state.color &&& 0x00ffffff) >>> 8 &&& 0xff) = ledRgb state.color 1 := by
    apply UInt32.toNat_inj.mp
    rw [ledRgb_toNat]
    simp [hmask, hmask24, Nat.shiftRight_eq_div_pow]
    omega
  have hblue : ((state.color &&& 0x00ffffff) &&& 0xff) = ledRgb state.color 2 := by
    apply UInt32.toNat_inj.mp
    rw [ledRgb_toNat]
    simp [hmask, hmask24]
  have hr := ledRgb_le state.color 0
  have hg := ledRgb_le state.color 1
  have hb := ledRgb_le state.color 2
  simp only [rgbToBrightness, hred, hgreen, hblue, UInt32.toNat_shiftRight, UInt32.toNat_add,
    UInt32.toNat_mul, UInt32.reduceToNat, Nat.reduceMod, Nat.shiftRight_eq_div_pow]
  omega

theorem rgbToBrightness_le (state : LightState) : (rgbToBrightness state).toNat ≤ 255 := by
  have hr := ledRgb_le state.color 0
  have hg := ledRgb_le state.color 1
  have hb := ledRgb_le state.color 2
  rw [rgbToBrightness_toNat]
  omega

/-- The luminance is within the limits. -/
theorem limitedBrightness_eq (state : LightState) :
    limitedBrightness state = rgbToBrightness state := by
  have hle := rgbToBrightness_le state
  simp only [limitedBrightness]
  split
  · rename_i hoff
    exact (UInt32.le_zero_iff.mp hoff).symm
  · split
    · rename_i hoff hmin
      simp only [lcdBrightnessOff, lcdBrightnessMin, UInt32.le_iff_toNat_le, UInt32.lt_iff_toNat_lt,
        UInt32.reduceToNat] at hoff hmin
      omega
    · split
      · rename_i hmax
        simp only [lcdBrightnessMax, gt_iff_lt, UInt32.lt_iff_toNat_lt, UInt32.reduceToNat] at hmax
        omega
      · rfl

/-- The piecewise mapping of the luminance. -/
def backlightLevel (luminance : Nat) : Nat :=
  if luminance = 0 then 0
  else if luminance < 128 then 1 + luminance / 2
  else 65 + (luminance - 128) * 190 / 127

theorem backlightLevel_mono {m n : Nat} (h : m ≤ n) : backlightLevel m ≤ backlightLevel n := by
  simp only [backlightLevel]
  by_cases hm : m = 0
  · simp [hm]
  · have hn : n ≠ 0 := by omega
    rw [if_neg hm, if_neg hn]
    by_cases hm' : m < 128
    · rw [if_pos hm']
      -- both pieces meet at 65
      split <;> omega
    · have hn' : ¬ n < 128 := by omega
      rw [if_neg hm', if_neg hn']
      omega

theorem backlightLevel_bounds {n : Nat} (hn : n ≤ 255) :
    (backlightLevel n = 0 ↔ n = 0) ∧ backlightLevel n ≤ 255 := by
  simp only [backlightLevel]
  split
  · omega
  · split <;> omega

theorem backlightBrightness_eq (state : LightState) : backlightBrightness state =
    if limitedBrightness state ≠ lcdBrightnessOff then
      if limitedBrightness state < lcdBacklightSlowedSpan then
        lcdBrightnessMin + limitedBrightness state / 2
      else lcdBrightnessMin + lcdBacklightSlowedMax +
        ((limitedBrightness state - lcdBacklightSlowedSpan) * lcdBacklightAcceleratedReal) /
          lcdBacklightAcceleratedSpan
    else limitedBrightness state := rfl

/-- The subtractions of the mapping do not underflow: those of the constants, and the one from a
brightness past the slowed span. -/
structure NoUnderflow (state : LightState) : Prop where
  real : lcdBrightnessMax.toNat = lcdBacklightAcceleratedReal.toNat +
    lcdBacklightSlowedMax.toNat + lcdBrightnessMin.toNat
  span : lcdBrightnessMax.toNat = lcdBacklightAcceleratedSpan.toNat + lcdBacklightSlowedSpan.toNat
  offset : ¬ limitedBrightness state < lcdBacklightSlowedSpan →
    (limitedBrightness state).toNat =
      (limitedBrightness state - lcdBacklightSlowedSpan).toNat + lcdBacklightSlowedSpan.toNat

theorem noUnderflow (state : LightState) : NoUnderflow state := by
  refine ⟨rfl, rfl, fun hspan => ?_⟩
  have hle : lcdBacklightSlowedSpan ≤ limitedBrightness state := UInt32.not_lt.mp hspan
  rw [UInt32.toNat_sub_of_le _ _ hle]
  have hle' := UInt32.le_iff_toNat_le.mp hle
  omega

theorem backlightBrightness_toNat (state : LightState) : (backlightBrightness state).toNat =
    backlightLevel (rgbToBrightness state).toNat := by
  have hle := rgbToBrightness_le state
  have hoffset := (noUnderflow state).offset
  rw [backlightBrightness_eq]
  rw [limitedBrightness_eq] at hoffset ⊢
  generalize rgbToBrightness state = n at hle hoffset ⊢
  have hoff : n ≠ lcdBrightnessOff ↔ n.toNat ≠ 0 := by
    rw [ne_eq, ← UInt32.toNat_inj]
    rfl
  have hspan : n < lcdBacklightSlowedSpan ↔ n.toNat < 128 := UInt32.lt_iff_toNat_lt
  simp only [hoff, hspan, backlightLevel] at hoffset ⊢
  by_cases hzero : n.toNat = 0
  · simp [hzero]
  · by_cases hslow : n.toNat < 128
    · simp only [hzero, hslow, ne_eq, not_false_eq_true, if_true, if_false]
      simp [lcdBrightnessMin]
      omega
    · have hsub : (n - lcdBacklightSlowedSpan).toNat = n.toNat - 128 := by
        have hspan' : lcdBacklightSlowedSpan.toNat = 128 := rfl
        have := hoffset hslow
        omega
      have hmul : ((n - lcdBacklightSlowedSpan) * lcdBacklightAcceleratedReal).toNat =
          (n.toNat - 128) * 190 := by
        rw [toNat_mul_of_bytes (by omega) (by decide), hsub]
        rfl
      have hbase : (lcdBrightnessMin + lcdBacklightSlowedMax).toNat = 65 := rfl
      have haccelerated : lcdBacklightAcceleratedSpan.toNat = 127 := rfl
      simp only [hzero, hslow, ne_eq, not_false_eq_true, if_true, if_false]
      rw [UInt32.toNat_add, UInt32.toNat_div, hmul, hbase, haccelerated]
      omega

/-- With every channel of `a` at most that of `b`, the luminance of `a` is at most that of `b`. -/
theorem rgbToBrightness_mono {a b : LightState}
    (h : ∀ c, ledRgb a.color c ≤ ledRgb b.color c) :
    (rgbToBrightness a).toNat ≤ (rgbToBrightness b).toNat := by
  have hr := UInt32.le_iff_toNat_le.mp (h 0)
  have hg := UInt32.le_iff_toNat_le.mp (h 1)
  have hb := UInt32.le_iff_toNat_le.mp (h 2)
  rw [rgbToBrightness_toNat, rgbToBrightness_toNat]
  exact Nat.div_le_div_right (by omega)

theorem rgbToBrightness_white {state : LightState}
    (h : ∀ c, ledRgb state.color c = 0xFF) : (rgbToBrightness state).toNat = 255 := by
  rw [rgbToBrightness_toNat, h 0, h 1, h 2]
  rfl

/-- What `setBacklight` writes to both nodes grows with the channels of the color; it is 0 only for
the luminance 0 and at most 255, which white reaches. -/
theorem setBacklight_monotone :
    (∀ (s s' : Light) (a b : LightState) (node node' : Fin 2),
      (∀ c, ledRgb a.color c ≤ ledRgb b.color c) →
        (s.setBacklight a).sysfs.backlight node ≤ (s'.setBacklight b).sysfs.backlight node') ∧
    ∀ (s : Light) (state : LightState) (node : Fin 2),
      ((s.setBacklight state).sysfs.backlight node = 0 ↔ rgbToBrightness state = 0) ∧
      (rgbToBrightness state ≠ 0 → 1 ≤ (s.setBacklight state).sysfs.backlight node ∧
        (s.setBacklight state).sysfs.backlight node ≤ 255) ∧
      ((∀ c, ledRgb state.color c = 0xFF) → (s.setBacklight state).sysfs.backlight node = 255) ∧
      NoUnderflow state ∧
      (rgbToBrightness state).toNat = (77 * (ledRgb state.color 0).toNat +
        150 * (ledRgb state.color 1).toNat + 29 * (ledRgb state.color 2).toNat) / 256 := by
  have hvalue : ∀ (s : Light) (state : LightState) (node : Fin 2),
      ((s.setBacklight state).sysfs.backlight node).toNat =
        backlightLevel (rgbToBrightness state).toNat :=
    fun _ state _ => backlightBrightness_toNat state
  refine ⟨fun s s' a b node node' h => ?_, fun s state node => ?_⟩
  · rw [UInt32.le_iff_toNat_le, hvalue, hvalue]
    exact backlightLevel_mono (rgbToBrightness_mono h)
  · obtain ⟨hzero, hmax⟩ := backlightLevel_bounds (rgbToBrightness_le state)
    have hdark : (s.setBacklight state).sysfs.backlight node = 0 ↔ rgbToBrightness state = 0 := by
      rw [← UInt32.toNat_inj, ← UInt32.toNat_inj, hvalue]
      exact hzero
    refine ⟨hdark, fun hlit => ⟨?_, ?_⟩, fun hwhite => ?_, noUnderflow state,
      rgbToBrightness_toNat state⟩
    · have hne : ((s.setBacklight state).sysfs.backlight node).toNat ≠ 0 :=
        fun he => hlit (hdark.mp (UInt32.toNat_inj.mp he))
      exact UInt32.le_iff_toNat_le.mpr (Nat.pos_of_ne_zero hne)
    · rw [UInt32.le_iff_toNat_le, hvalue]
      exact hmax
    · rw [← UInt32.toNat_inj, hvalue, rgbToBrightness_white hwhite]
      rfl

theorem setBacklight_monotone_gray :
    let s := new darkNodes (steady 0) (steady 0) (steady 0)
    (s.setBacklight (steady 0x7F7F7F)).sysfs.backlight 0 ≤
        (s.setBacklight (steady 0xFFFFFF)).sysfs.backlight 1 ∧
      (s.setBacklight (steady 0xFFFFFF)).sysfs.backlight 1 = 255 :=
  ⟨setBacklight_monotone.1 _ _ _ _ _ _ (by decide),
    (setBacklight_monotone.2 _ _ _).2.2.1 (by decide)⟩

end Light
end Lights
end Huashan
