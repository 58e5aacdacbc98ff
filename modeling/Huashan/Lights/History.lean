import Huashan.Lights.Drawn

/-!
# Huashan.Lights.History

How far the display depends on the calls that came before.

* `display_correct`: the brightness nodes show the stored states, in every run.
* `skipInvisible_iff`: when a skipped write cannot be told from one that is not.
* `sameDisplay_attention_iff`: when two runs show the same attention light.

The last two fail in general. The caches leave out `mLightsState`, and the currents depend on it;
the attention is shown with the `mLightsState` of an earlier call.
-/

namespace Huashan
namespace Lights
namespace Light

/-- The calls of a run, from a new object. -/
def run (sysfs : Sysfs) (attention battery notification : LightState)
    (cs : List (LightType × LightState)) : Light :=
  cs.foldl call (new sysfs attention battery notification)

/-- The `mLightsState` of the last write of a run that was not skipped. -/
def drawnState (sysfs : Sysfs) (attention battery notification : LightState)
    (cs : List (LightType × LightState)) : Option LedsState :=
  (cs.foldl traced (new sysfs attention battery notification, none)).2

section Runs

variable (sysfs : Sysfs) (attention battery notification : LightState)
  (cs : List (LightType × LightState))

theorem traced_run : Traced (new sysfs attention battery notification).leds
    (run sysfs attention battery notification cs,
      drawnState sysfs attention battery notification cs) := by
  have hnew : Traced (new sysfs attention battery notification).leds
      (new sysfs attention battery notification, none) := ⟨rfl, rfl⟩
  have hrun := hnew.run cs
  have hfst := fst_foldl_traced cs (new sysfs attention battery notification, none)
  rw [run, drawnState, ← hfst]
  exact hrun

theorem drawn_of_drawnState {d : LedsState}
    (h : drawnState sysfs attention battery notification cs = some d) :
    (run sysfs attention battery notification cs).Drawn d := by
  have ht := traced_run sysfs attention battery notification cs
  rw [h] at ht
  exact ht

theorem undrawn_of_drawnState
    (h : drawnState sysfs attention battery notification cs = none) :
    (run sysfs attention battery notification cs).Undrawn
      (new sysfs attention battery notification).leds := by
  have ht := traced_run sysfs attention battery notification cs
  rw [h] at ht
  exact ht

end Runs

/-! ## The display of a run -/

/-- What channel `c` of a unit that shows `state` is lit with. -/
def channel (state : LightState) (c : Fin 3) : UInt32 :=
  if ledRgb state.color c ≠ 0 then 255 else 0

/-- What unit `u` is to show: the battery on the first unit, else the notification. -/
def shown (s : Light) (u c : Fin 3) : UInt32 :=
  if isLit s.mBatteryState ∧ u = batteryUnit then channel s.mBatteryState c
  else if isLit s.mNotificationState then channel s.mNotificationState c
  else 0

theorem channel_of_unlit {state : LightState} (h : isLit state = false) (c : Fin 3) :
    channel state c = 0 := by
  rw [channel, (not_isLit_iff state).mp h c]
  simp

theorem Drawn.brightness {s : Light} {d : LedsState} (h : s.Drawn d)
    (hs : isLit s.mNotificationState ∨ isLit s.mAttentionState = false) (u c : Fin 3) :
    (s.leds u c).1 = s.shown u c := by
  have hsel := h.settled.selected
  have hu := mem_ledUnits s u
  cases hn : isLit s.mNotificationState with
  | true =>
    have hk : s.mLightsState = .ledsNotifications := by rw [hsel, selectedState, if_pos hn]
    have hd : s.displayed = s.mNotificationState := by rw [displayed, if_pos hn]
    by_cases hm : u ∈ s.ledUnits
    · have hnot : ¬ (isLit s.mBatteryState ∧ u = 0) := by
        rintro ⟨hb, hu0⟩
        have hbattery := (hu.mp hm hb).mp hu0
        rw [hk] at hbattery
        cases hbattery
      rw [h.units u hm, hd, shown, if_neg hnot, if_pos hn]
      rfl
    · have hbat : isLit s.mBatteryState ∧ u = 0 := by
        by_contra hnot
        refine hm (hu.mpr fun hb => ?_)
        simp [hk, show u ≠ 0 from fun hu0 => hnot ⟨hb, hu0⟩]
      rw [h.rest u hm, restLeds, if_neg (by simp [hk]), shown, if_pos hbat]
      rfl
  | false =>
    have ha : isLit s.mAttentionState = false := by
      rcases hs with hs | hs
      · rw [hn] at hs; cases hs
      · exact hs
    have hk : s.mLightsState = .ledsBattery := by
      rw [hsel, selectedState, if_neg (by simp [hn]), if_neg (by simp [ha])]
    have hd : s.displayed = s.mBatteryState := by
      rw [displayed, if_neg (by simp [hn]), if_neg (by simp [ha])]
    by_cases hm : u ∈ s.ledUnits
    · rw [h.units u hm, hd]
      by_cases hb : isLit s.mBatteryState
      · rw [shown, if_pos ⟨hb, (hu.mp hm hb).mpr hk⟩]
        rfl
      · have hunlit : isLit s.mBatteryState = false := by simpa using hb
        rw [shown, if_neg fun hbu => hb hbu.1, if_neg (by simp [hn])]
        exact channel_of_unlit hunlit c
    · have hnot : ¬ (isLit s.mBatteryState ∧ u = 0) := by
        rintro ⟨_, hu0⟩
        exact hm (hu.mpr fun _ => ⟨fun _ => hk, fun _ => hu0⟩)
      rw [h.rest u hm, restLeds, if_pos hk, shown, if_neg hnot, if_neg (by simp [hn])]

/-- Until the first write of a run from unlit states, nothing lit is displayed. -/
theorem unlit_of_undrawn {leds₀ : Fin 3 → Fin 3 → UInt32 × UInt32}
    (cs : List (LightType × LightState)) : ∀ {x : Light × Option LedsState}, Traced leds₀ x →
      (x.2 = none → isLit x.1.displayed = false) →
      (cs.foldl traced x).2 = none → isLit (cs.foldl traced x).1.displayed = false := by
  induction cs with
  | nil => intro x _ h; exact h
  | cons c cs ih =>
    intro x hx h
    refine ih (hx.step c) fun hnone => ?_
    obtain ⟨s, d⟩ := x
    cases hc : c.1.isLed with
    | false =>
      obtain ⟨brightness, hcall⟩ := call_not_led s hc
      simp only [traced, hc, Bool.false_eq_true, false_and, if_false] at hnone ⊢
      rw [hcall]
      exact h hnone
    | true =>
      by_cases hskip : s.Skips c
      · simp only [traced, hc, hskip, not_true, and_false, if_false] at hnone ⊢
        subst hnone
        exact (Undrawn.call_skips hx hc hskip).2
      · simp only [traced, hc, hskip, not_false_eq_true, and_self, if_true] at hnone
        cases hnone

/-- In every run from unlit states and dark nodes, the brightness nodes show the stored states,
unless a lit attention is displayed. -/
theorem display_correct (sysfs : Sysfs) (attention battery notification : LightState)
    (hattention : isLit attention = false) (hbattery : isLit battery = false)
    (hnotification : isLit notification = false) (hdark : ∀ k, sysfs.brightness k = 0)
    (cs : List (LightType × LightState))
    (hs : isLit (run sysfs attention battery notification cs).mNotificationState ∨
      isLit (run sysfs attention battery notification cs).mAttentionState = false)
    (u c : Fin 3) :
    (run sysfs attention battery notification cs).sysfs.brightness (il u c) =
      (run sysfs attention battery notification cs).shown u c := by
  cases hd : drawnState sysfs attention battery notification cs with
  | some d =>
    exact (drawn_of_drawnState sysfs attention battery notification cs hd).brightness hs u c
  | none =>
    have hleds := (undrawn_of_drawnState sysfs attention battery notification cs hd).leds
    have hunlit : isLit (run sysfs attention battery notification cs).displayed = false := by
      have hnew : Traced (new sysfs attention battery notification).leds
          (new sysfs attention battery notification, none) := ⟨rfl, rfl⟩
      have hstart : isLit (new sysfs attention battery notification).displayed = false := by
        simp [displayed, new, hattention, hbattery, hnotification]
      have h := unlit_of_undrawn cs hnew (fun _ => hstart) hd
      rwa [fst_foldl_traced] at h
    obtain ⟨hn, _, hb⟩ := unlit_of_displayed hunlit
    have hzero : ((new sysfs attention battery notification).leds u c).1 = 0 := hdark (il u c)
    have hbright : (run sysfs attention battery notification cs).sysfs.brightness (il u c) =
        ((run sysfs attention battery notification cs).leds u c).1 := rfl
    rw [hbright, hleds, hzero, shown, if_neg (by simp [hb]), if_neg (by simp [hn])]

/-- The battery's green on the first unit, under a red notification. -/
theorem display_correct_battery_notification :
    (run darkNodes (steady 0) (steady 0) (steady 0)
      [(.battery, steady 0xff00ff00), (.notifications, steady 0xffff0000)]).sysfs.brightness
        (il 0 1) = 255 :=
  (display_correct darkNodes (steady 0) (steady 0) (steady 0) (by decide) (by decide) (by decide)
    (fun _ => rfl) _ (.inl (by decide)) 0 1).trans (by decide)

/-! ## Skipped writes -/

/-- The LED nodes hold the same values. -/
def SameDisplay (s s' : Light) : Prop :=
  s.sysfs.brightness = s'.sysfs.brightness ∧ s.sysfs.ledCurrent = s'.sysfs.ledCurrent

theorem exists_il (k : Fin 9) : ∃ u c, il u c = k := by
  revert k
  decide

theorem sameDisplay_iff {s s' : Light} : SameDisplay s s' ↔ ∀ u, s.leds u = s'.leds u := by
  constructor
  · rintro ⟨hb, hc⟩ u
    funext c
    simp [leds, hb, hc]
  · intro h
    have hk : ∀ k, s.sysfs.brightness k = s'.sysfs.brightness k ∧
        s.sysfs.ledCurrent k = s'.sysfs.ledCurrent k := by
      intro k
      obtain ⟨u, c, rfl⟩ := exists_il k
      exact Prod.mk.inj (congrFun (h u) c)
    exact ⟨funext fun k => (hk k).1, funext fun k => (hk k).2⟩

/-- A color gets the same currents from the battery and from the notification ratio. -/
def SameCurrents (color : UInt32) : Prop :=
  ∀ u c, ledCurrent .ledsBattery (colorBrightness color) (ledRgb color) u c =
    ledCurrent .ledsNotifications (colorBrightness color) (ledRgb color) u c

/-- The two states of `mLightsState` that give an LED the same current ratio. -/
def SameRatio (k k' : LedsState) : Prop := k = .ledsBattery ↔ k' = .ledsBattery

theorem ledCurrent_congr {k k' : LedsState} (h : SameRatio k k') (b : UInt32)
    (rgb : Fin 3 → UInt32) : ledCurrent k b rgb = ledCurrent k' b rgb := by
  have hratio : ledCurrentRatio k b = ledCurrentRatio k' b := by
    by_cases hk : k = .ledsBattery
    · simp [ledCurrentRatio, hk, h.mp hk]
    · simp [ledCurrentRatio, hk, mt h.mpr hk]
  funext u c
  simp only [ledCurrent, hratio]

theorem unitLeds_eq_iff {k k' : LedsState} {b : UInt32} {rgb : Fin 3 → UInt32} {u : Fin 3} :
    unitLeds k b rgb u = unitLeds k' b rgb u ↔
      ∀ c, ledCurrent k b rgb u c = ledCurrent k' b rgb u c := by
  simp [unitLeds, funext_iff]

/-- Drawn in two states on all units, a color shows the same exactly when the states give the
same ratio or the color the same currents. -/
theorem unitLeds_all_iff {k k' : LedsState} {color : UInt32} :
    (∀ u, unitLeds k (colorBrightness color) (ledRgb color) u =
        unitLeds k' (colorBrightness color) (ledRgb color) u) ↔
      SameRatio k k' ∨ SameCurrents color := by
  simp only [unitLeds_eq_iff]
  by_cases hratio : SameRatio k k'
  · simp [hratio, ledCurrent_congr hratio]
  · simp only [hratio, false_or, SameCurrents]
    by_cases hk : k = .ledsBattery
    · have hk' : SameRatio k' .ledsNotifications := by simp_all [SameRatio]
      rw [hk, ledCurrent_congr hk']
    · have hk' : k' = .ledsBattery := by simp_all [SameRatio]
      have hkn : SameRatio k .ledsNotifications := by simp_all [SameRatio]
      rw [hk', ledCurrent_congr hkn]
      exact ⟨fun h u c => (h u c).symm, fun h u c => (h u c).symm⟩

/-- The write of a call can be skipped unseen: nothing was drawn and the nodes are dark, or the
last write had the ratio of this one, or the ratio does not matter for the color. -/
def SkipsUnseen (s : Light) (c : LightType × LightState) : Option LedsState → Prop
  | none => ∀ u c, s.leds u c = (0, 0)
  | some d => SameRatio d (s.prepared c).mLightsState ∨
      SameCurrents (s.prepared c).displayed.color

theorem sameDisplay_callWriting (s : Light) {c : LightType × LightState} (hc : c.1.isLed) :
    SameDisplay (s.call c) (s.callWriting c) ↔
      (s.Skips c → ∀ u ∈ (s.prepared c).ledUnits, s.leds u =
        unitLeds (s.prepared c).mLightsState (colorBrightness (s.prepared c).displayed.color)
          (ledRgb (s.prepared c).displayed.color) u) := by
  rw [sameDisplay_iff]
  constructor
  · intro h hskip u hu
    have hleds := h u
    rwa [leds_call s hc, leds_callWriting s hc, if_pos hu, if_pos hu, if_pos hskip] at hleds
  · intro h u
    rw [leds_call s hc, leds_callWriting s hc]
    by_cases hu : u ∈ (s.prepared c).ledUnits
    · by_cases hskip : s.Skips c
      · rw [if_pos hu, if_pos hu, if_pos hskip, h hskip u hu]
      · rw [if_pos hu, if_pos hu, if_neg hskip]
    · rw [if_neg hu, if_neg hu]

/-- With the battery lit, equal units already have the same ratio. -/
theorem Drawn.sameRatio_of_battery {s : Light} {d : LedsState} (h : s.Drawn d)
    {c : LightType × LightState} (hskip : s.Skips c) (hb : isLit (s.prepared c).mBatteryState) :
    SameRatio d (s.prepared c).mLightsState := by
  obtain ⟨hb', hk⟩ := battery_of_mem_ledUnits (h.repeated hskip).2 hb
  exact (h.state hb').trans hk

/-- In every run, skipping the LED write of a call is invisible exactly when the write can be
skipped unseen. -/
theorem skipInvisible_iff (sysfs : Sysfs) (attention battery notification : LightState)
    (cs : List (LightType × LightState)) (c : LightType × LightState) (hc : c.1.isLed) :
    SameDisplay ((run sysfs attention battery notification cs).call c)
        ((run sysfs attention battery notification cs).callWriting c) ↔
      ((run sysfs attention battery notification cs).Skips c →
        (run sysfs attention battery notification cs).SkipsUnseen c
          (drawnState sysfs attention battery notification cs)) := by
  rw [sameDisplay_callWriting _ hc]
  refine forall_congr' fun hskip => ?_
  cases hd : drawnState sysfs attention battery notification cs with
  | none =>
    have hun := undrawn_of_drawnState sysfs attention battery notification cs hd
    generalize run sysfs attention battery notification cs = s at *
    obtain ⟨hcolor, hall⟩ := hun.repeated hskip
    have hdark : ∀ u, unitLeds (s.prepared c).mLightsState
        (colorBrightness (s.prepared c).displayed.color)
        (ledRgb (s.prepared c).displayed.color) u = fun _ => (0, 0) := by
      intro u
      funext c'
      refine unitLeds_zero ?_
      rw [hcolor]
      fin_cases c' <;> rfl
    simp only [SkipsUnseen, hdark, hall, true_implies, funext_iff]
  | some d =>
    have hdr := drawn_of_drawnState sysfs attention battery notification cs hd
    generalize run sysfs attention battery notification cs = s at *
    obtain ⟨hcolor, hmem⟩ := hdr.repeated hskip
    simp only [SkipsUnseen, ← unitLeds_all_iff, hcolor]
    by_cases hb : isLit (s.prepared c).mBatteryState
    · have hratio := hdr.sameRatio_of_battery hskip hb
      have hall : ∀ u, unitLeds d (colorBrightness s.displayed.color)
          (ledRgb s.displayed.color) u = unitLeds (s.prepared c).mLightsState
          (colorBrightness s.displayed.color) (ledRgb s.displayed.color) u :=
        unitLeds_all_iff.mpr (.inl hratio)
      refine ⟨fun _ => hall, fun _ u hu => ?_⟩
      rw [hdr.units u ((hmem u).mp hu), hall u]
    · have hall : ∀ u, u ∈ (s.prepared c).ledUnits := fun u =>
        (mem_ledUnits _ u).mpr fun hb' => absurd hb' hb
      refine forall_congr' fun u => ?_
      rw [hdr.units u ((hmem u).mp (hall u))]
      exact ⟨fun h => h (hall u), fun h _ => h⟩

/-- The same red first as an attention and then as a notification: the currents stay those of the
charging ratio. -/
theorem skip_visible : ¬ SameDisplay
    ((run darkNodes (steady 0) (steady 0) (steady 0)
      [(.battery, steady 0), (.attention, steady 0xffff0000)]).call
        (.notifications, steady 0xffff0000))
    ((run darkNodes (steady 0) (steady 0) (steady 0)
      [(.battery, steady 0), (.attention, steady 0xffff0000)]).callWriting
        (.notifications, steady 0xffff0000)) := by
  intro h
  have hcurrent := congrFun h.2 (il 0 0)
  revert hcurrent
  decide

theorem skipInvisible_repeated : SameDisplay
    ((run darkNodes (steady 0) (steady 0) (steady 0) [(.attention, steady 0xffff0000)]).call
      (.attention, steady 0xffff0000))
    ((run darkNodes (steady 0) (steady 0) (steady 0)
      [(.attention, steady 0xffff0000)]).callWriting (.attention, steady 0xffff0000)) := by
  refine (skipInvisible_iff darkNodes (steady 0) (steady 0) (steady 0)
    [(.attention, steady 0xffff0000)] (.attention, steady 0xffff0000) rfl).mpr fun _ => ?_
  have hdrawn : drawnState darkNodes (steady 0) (steady 0) (steady 0)
      [(.attention, steady 0xffff0000)] = some .ledsOff := by decide
  rw [hdrawn]
  exact .inl Iff.rfl

/-! ## The attention light -/

theorem core_prepared (s : Light) (c : LightType × LightState) :
    (s.prepared c).core = s.core.prepared c := by
  obtain ⟨type, state⟩ := c
  cases type <;> rfl

/-- What a call does to the stored states and the caches does not depend on the nodes. -/
theorem core_call (s : Light) (c : LightType × LightState) :
    (s.call c).core = (s.core.call c).core := by
  cases hc : c.1.isLed with
  | true =>
    rw [call_led s hc, call_led s.core hc, core_setSpeakerLightLockedWith,
      core_setSpeakerLightLockedWith, ← core_prepared]
    rfl
  | false =>
    obtain ⟨type, state⟩ := c
    cases type with
    | attention | battery | notifications => cases hc
    | backlight | keyboard | buttons | bluetooth | wifi => rfl

theorem skips_core (s : Light) (c : LightType × LightState) : s.core.Skips c ↔ s.Skips c := by
  rw [Skips, Skips, ← core_prepared]
  rfl

theorem traced_core {x y : Light × Option LedsState} (hcore : x.1.core = y.1.core)
    (hd : x.2 = y.2) (c : LightType × LightState) :
    (traced x c).1.core = (traced y c).1.core ∧ (traced x c).2 = (traced y c).2 := by
  have hskips : x.1.Skips c ↔ y.1.Skips c := by rw [← skips_core, hcore, skips_core]
  have hprepared : (x.1.prepared c).mLightsState = (y.1.prepared c).mLightsState := by
    have h : (x.1.prepared c).core = (y.1.prepared c).core := by
      rw [core_prepared, hcore, core_prepared]
    exact (congrArg mLightsState h :)
  refine ⟨?_, ?_⟩
  · simp only [traced]
    rw [core_call, hcore, ← core_call]
  · simp only [traced, hskips, hprepared, hd]

theorem foldl_traced_core (cs : List (LightType × LightState)) :
    ∀ {x y : Light × Option LedsState}, x.1.core = y.1.core → x.2 = y.2 →
      (cs.foldl traced x).1.core = (cs.foldl traced y).1.core ∧
        (cs.foldl traced x).2 = (cs.foldl traced y).2 := by
  induction cs with
  | nil => intro x y hcore hd; exact ⟨hcore, hd⟩
  | cons c cs ih =>
    intro x y hcore hd
    obtain ⟨hcore', hd'⟩ := traced_core hcore hd c
    exact ih hcore' hd'

/-- What the nodes held before a run is irrelevant to the stored states and the caches. -/
theorem core_run (sysfs sysfs' : Sysfs) (attention battery notification : LightState)
    (cs : List (LightType × LightState)) :
    (run sysfs attention battery notification cs).core =
        (run sysfs' attention battery notification cs).core ∧
      drawnState sysfs attention battery notification cs =
        drawnState sysfs' attention battery notification cs := by
  have hnew : (new sysfs attention battery notification).core =
      (new sysfs' attention battery notification).core := rfl
  have h := foldl_traced_core cs (x := (_, none)) (y := (_, none)) hnew rfl
  rwa [fst_foldl_traced, fst_foldl_traced] at h

theorem Drawn.brightness_values {s : Light} {d : LedsState} (h : s.Drawn d) (u c : Fin 3) :
    (s.leds u c).1 = 0 ∨ (s.leds u c).1 = 255 := by
  have hunit : ∀ (k : LedsState) (b : UInt32) (rgb : Fin 3 → UInt32) (u : Fin 3),
      (unitLeds k b rgb u c).1 = 0 ∨ (unitLeds k b rgb u c).1 = 255 := by
    intro k b rgb u
    by_cases hc : rgb c ≠ 0
    · exact .inr (if_pos hc)
    · exact .inl (if_neg hc)
  by_cases hu : u ∈ s.ledUnits
  · rw [h.units u hu]
    exact hunit _ _ _ _
  · rw [h.rest u hu, restLeds]
    split
    · exact .inl rfl
    · exact hunit _ _ _ _

/-- Shown beside a lit battery, a lit state is on the side units or it is not. -/
theorem not_sameDisplay_of_battery {s s' : Light} {d d' : LedsState} (h : s.Drawn d)
    (h' : s'.Drawn d') (hlit : isLit s'.displayed) (hb : isLit s.mBatteryState)
    (hk : s.mLightsState = .ledsBattery) (hk' : s'.mLightsState ≠ .ledsBattery) :
    ¬ SameDisplay s s' := by
  intro hsame
  obtain ⟨c, hc⟩ := (isLit_iff _).mp hlit
  have hrest : (s.leds 1 c).1 = 0 := by
    rw [h.rest 1 fun hm => by simpa [hk, hb] using (mem_ledUnits s 1).mp hm, restLeds, if_pos hk]
  have hunit : (s'.leds 1 c).1 = 255 := by
    rw [h'.units 1 ((mem_ledUnits s' 1).mpr fun _ => by simp [hk'])]
    exact if_pos (UInt32.pos_iff_ne_zero.mp hc)
  rw [sameDisplay_iff.mp hsame 1, hunit] at hrest
  exact absurd hrest (by decide)

theorem sameDisplay_drawn_iff {s s' : Light} {d d' : LedsState} (h : s.Drawn d)
    (h' : s'.Drawn d') (hdisplayed : s'.displayed = s.displayed)
    (hbattery : s'.mBatteryState = s.mBatteryState) (hlit : isLit s.displayed) :
    SameDisplay s s' ↔
      SameRatio d d' ∨ (isLit s.mBatteryState = false ∧ SameCurrents s.displayed.color) := by
  cases hb : isLit s.mBatteryState with
  | false =>
    have hall : ∀ u, u ∈ s.ledUnits := fun u => (mem_ledUnits s u).mpr fun hb' => by
      rw [hb] at hb'; cases hb'
    have hall' : ∀ u, u ∈ s'.ledUnits := fun u => (mem_ledUnits s' u).mpr fun hb' => by
      rw [hbattery, hb] at hb'; cases hb'
    have hleds : ∀ u, s.leds u = s'.leds u ↔
        unitLeds d (colorBrightness s.displayed.color) (ledRgb s.displayed.color) u =
          unitLeds d' (colorBrightness s.displayed.color) (ledRgb s.displayed.color) u := by
      intro u
      rw [h.units u (hall u), h'.units u (hall' u), hdisplayed]
    simp only [sameDisplay_iff, hleds, unitLeds_all_iff, true_and]
  | true =>
    have hk := h.state hb
    have hk' := h'.state (hbattery ▸ hb)
    simp only [Bool.true_eq_false, false_and, or_false]
    constructor
    · intro hsame
      by_contra hratio
      by_cases hbat : s.mLightsState = .ledsBattery
      · have hbat' : s'.mLightsState ≠ .ledsBattery := fun hc =>
          hratio (iff_of_true (hk.mpr hbat) (hk'.mpr hc))
        exact not_sameDisplay_of_battery h h' (hdisplayed ▸ hlit) hb hbat hbat' hsame
      · have hbat' : s'.mLightsState = .ledsBattery := by
          by_contra hc
          exact hratio (iff_of_false (mt hk.mp hbat) (mt hk'.mp hc))
        exact not_sameDisplay_of_battery h' h hlit (hbattery ▸ hb) hbat' hbat
          ⟨hsame.1.symm, hsame.2.symm⟩
    · intro hratio
      have hclass : s.mLightsState = .ledsBattery ↔ s'.mLightsState = .ledsBattery :=
        hk.symm.trans (hratio.trans hk')
      rw [sameDisplay_iff]
      intro u
      have hu : u ∈ s.ledUnits ↔ u ∈ s'.ledUnits := by
        rw [mem_ledUnits, mem_ledUnits, hbattery, hclass]
      by_cases hm : u ∈ s.ledUnits
      · rw [h.units u hm, h'.units u (hu.mp hm), hdisplayed]
        funext c
        simp only [unitLeds, ledCurrent_congr hratio]
      · rw [h.rest u hm, h'.rest u (mt hu.mpr hm), hdisplayed, restLeds, restLeds, hbattery]
        simp only [hclass]

/-- Nodes that hold a brightness no LED write leaves. -/
def strangeNodes : Sysfs := { darkNodes with brightness := fun _ => 7 }

theorem not_sameDisplay_strange {attention battery notification : LightState} {s s' : Light}
    {d : LedsState} (h : s.Undrawn (new strangeNodes attention battery notification).leds)
    (h' : s'.Drawn d) : ¬ SameDisplay s s' := by
  intro hsame
  have hvalue : (s'.leds 0 0).1 = 7 := by
    rw [← sameDisplay_iff.mp hsame 0, h.leds]
    rfl
  rcases h'.brightness_values 0 0 with hb | hb
  · rw [hb] at hvalue; exact absurd hvalue (by decide)
  · rw [hb] at hvalue; exact absurd hvalue (by decide)

/-- Two runs drew an attention alike: neither wrote to the LEDs at all, or the last writes had the
same ratio, or the battery is unlit and the ratio does not matter for the color. -/
def DrawnAlike (s : Light) : Option LedsState → Option LedsState → Prop
  | none, none => True
  | some d, some d' => SameRatio d d' ∨
      (isLit s.mBatteryState = false ∧ SameCurrents s.mAttentionState.color)
  | _, _ => False

/-- Two runs that end with the same stored states, a lit attention and an unlit notification show
the same, whatever the nodes held before, exactly when they drew the attention alike. -/
theorem sameDisplay_attention_iff (sysfs : Sysfs) (attention battery notification : LightState)
    (cs cs' : List (LightType × LightState))
    (hattention : (run sysfs attention battery notification cs').mAttentionState =
      (run sysfs attention battery notification cs).mAttentionState)
    (hbattery : (run sysfs attention battery notification cs').mBatteryState =
      (run sysfs attention battery notification cs).mBatteryState)
    (hnotification : (run sysfs attention battery notification cs').mNotificationState =
      (run sysfs attention battery notification cs).mNotificationState)
    (hlit : isLit (run sysfs attention battery notification cs).mAttentionState)
    (hunlit : isLit (run sysfs attention battery notification cs).mNotificationState = false) :
    (∀ nodes, SameDisplay (run nodes attention battery notification cs)
        (run nodes attention battery notification cs')) ↔
      (run sysfs attention battery notification cs).DrawnAlike
        (drawnState sysfs attention battery notification cs)
        (drawnState sysfs attention battery notification cs') := by
  have hstored : ∀ {f : Light → LightState}, (∀ s : Light, f s.core = f s) → ∀ nodes fs,
      f (run nodes attention battery notification fs) =
        f (run sysfs attention battery notification fs) := by
    intro f hf nodes fs
    rw [← hf, (core_run nodes sysfs attention battery notification fs).1, hf]
  have hdisplayed : (run sysfs attention battery notification cs).displayed =
      (run sysfs attention battery notification cs).mAttentionState := by
    rw [displayed, if_neg (by simp [hunlit]), if_pos hlit]
  have hdisplayed' : (run sysfs attention battery notification cs').displayed =
      (run sysfs attention battery notification cs).displayed := by
    simp only [displayed, hattention, hbattery, hnotification]
  have hdrawn := fun nodes => (core_run nodes sysfs attention battery notification cs).2
  have hdrawn' := fun nodes => (core_run nodes sysfs attention battery notification cs').2
  cases hd : drawnState sysfs attention battery notification cs with
  | none =>
    rw [hd] at hdrawn
    have hun := fun nodes => undrawn_of_drawnState _ _ _ _ _ (hdrawn nodes)
    cases hd' : drawnState sysfs attention battery notification cs' with
    | none =>
      rw [hd'] at hdrawn'
      have hun' := fun nodes => undrawn_of_drawnState _ _ _ _ _ (hdrawn' nodes)
      refine iff_of_true (fun nodes => sameDisplay_iff.mpr fun u => ?_) trivial
      rw [(hun nodes).leds, (hun' nodes).leds]
    | some d' =>
      rw [hd'] at hdrawn'
      have hdr' := fun nodes => drawn_of_drawnState _ _ _ _ _ (hdrawn' nodes)
      exact iff_of_false
        (fun h => not_sameDisplay_strange (hun strangeNodes) (hdr' strangeNodes) (h strangeNodes))
        id
  | some d =>
    rw [hd] at hdrawn
    have hdr := fun nodes => drawn_of_drawnState _ _ _ _ _ (hdrawn nodes)
    cases hd' : drawnState sysfs attention battery notification cs' with
    | none =>
      rw [hd'] at hdrawn'
      have hun' := fun nodes => undrawn_of_drawnState _ _ _ _ _ (hdrawn' nodes)
      refine iff_of_false (fun h => ?_) id
      have hsame := h strangeNodes
      exact not_sameDisplay_strange (hun' strangeNodes) (hdr strangeNodes)
        ⟨hsame.1.symm, hsame.2.symm⟩
    | some d' =>
      rw [hd'] at hdrawn'
      have hdr' := fun nodes => drawn_of_drawnState _ _ _ _ _ (hdrawn' nodes)
      have hnodes : ∀ nodes, SameDisplay (run nodes attention battery notification cs)
          (run nodes attention battery notification cs') ↔
            (run sysfs attention battery notification cs).DrawnAlike (some d) (some d') := by
        intro nodes
        have hbat := hstored (f := mBatteryState) (fun _ => rfl) nodes
        have hdisp := hstored (f := displayed) (fun _ => rfl) nodes
        rw [sameDisplay_drawn_iff (hdr nodes) (hdr' nodes) (by rw [hdisp, hdisp, hdisplayed'])
          (by rw [hbat, hbat, hbattery]) (by rw [hdisp, hdisplayed, hlit]), hbat, hdisp,
          hdisplayed]
        rfl
      exact ⟨fun h => (hnodes sysfs).mp (h sysfs), fun h nodes => (hnodes nodes).mpr h⟩

theorem sameDisplay_attention_repeated : SameDisplay
    (run darkNodes (steady 0) (steady 0) (steady 0) [(.attention, steady 0xffff0000)])
    (run darkNodes (steady 0) (steady 0) (steady 0)
      [(.attention, steady 0xffff0000), (.attention, steady 0xffff0000)]) := by
  have hdrawn : drawnState darkNodes (steady 0) (steady 0) (steady 0)
      [(.attention, steady 0xffff0000)] = some .ledsOff := by decide
  have hdrawn' : drawnState darkNodes (steady 0) (steady 0) (steady 0)
      [(.attention, steady 0xffff0000), (.attention, steady 0xffff0000)] = some .ledsOff := by
    decide
  refine (sameDisplay_attention_iff darkNodes (steady 0) (steady 0) (steady 0) _ _
    (by decide) (by decide) (by decide) (by decide) (by decide)).mpr ?_ darkNodes
  rw [hdrawn, hdrawn']
  exact .inl Iff.rfl

/-- The same stored states and the same last call, with an unlit battery call before it in one of
the runs: the attention has other currents. -/
theorem attention_history_visible :
    let s := run darkNodes (steady 0) (steady 0) (steady 0) [(.attention, steady 0xffff0000)]
    let s' := run darkNodes (steady 0) (steady 0) (steady 0)
      [(.battery, steady 0), (.attention, steady 0xffff0000)]
    s'.mAttentionState = s.mAttentionState ∧ s'.mBatteryState = s.mBatteryState ∧
      s'.mNotificationState = s.mNotificationState ∧ isLit s.mAttentionState ∧
      isLit s.mNotificationState = false ∧ ¬ SameDisplay s s' := by
  refine ⟨by decide, by decide, by decide, by decide, by decide, fun h => ?_⟩
  have hcurrent := congrFun h.2 (il 0 0)
  revert hcurrent
  decide

end Light
end Lights
end Huashan
