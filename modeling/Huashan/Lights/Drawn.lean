import Huashan.Lights.Display

/-!
# Huashan.Lights.Drawn

What the nodes show. A skipped write leaves the displayed units as they were drawn before, and
with the currents of the `mLightsState` of that time. A traced run keeps this state: its second
component is the `mLightsState` of the last write that was not skipped, `none` before the first.

`Drawn` is the invariant: the displayed units are drawn for the displayed color, at the currents
of the traced state; the other units are dark or show the battery.
-/

namespace Huashan
namespace Lights
namespace Light

/-- The LED write of a call repeats the last request and is skipped. -/
def Skips (s : Light) (c : LightType × LightState) : Prop :=
  (s.prepared c).rgbUpdate (s.prepared c).displayed = .rgbKeep

instance (s : Light) (c : LightType × LightState) : Decidable (s.Skips c) :=
  inferInstanceAs (Decidable (_ = _))

/-- A call of a traced run. -/
def traced (x : Light × Option LedsState) (c : LightType × LightState) :
    Light × Option LedsState :=
  (x.1.call c,
    if c.1.isLed ∧ ¬ x.1.Skips c then some (x.1.prepared c).mLightsState else x.2)

/-- What the units show that are not for the displayed state. -/
def restLeds (s : Light) (b : UInt32) : Fin 3 → UInt32 × UInt32 :=
  if s.mLightsState = .ledsBattery then fun _ => (0, 0)
  else unitLeds .ledsBattery b (ledRgb s.mBatteryState.color) batteryUnit

/-- The nodes show the displayed state, drawn while `mLightsState` was `d`. -/
structure Drawn (s : Light) (d : LedsState) : Prop where
  settled : s.Settled
  units : ∀ u ∈ s.ledUnits,
    s.leds u = unitLeds d (colorBrightness s.displayed.color) (ledRgb s.displayed.color) u
  rest : ∀ u, u ∉ s.ledUnits → s.leds u = s.restLeds (colorBrightness s.displayed.color)
  state : isLit s.mBatteryState → (d = .ledsBattery ↔ s.mLightsState = .ledsBattery)

/-! ## A skipped write -/

theorem rgbUpdate_keep {s : Light} {state : LightState} (h : s.rgbUpdate state = .rgbKeep) :
    state.color = s.mLightsARGB ∧ s.requestTarget state = s.mSequencerProgramTarget := by
  simp only [rgbUpdate, ledsRgbUpdate] at h
  split at h
  · cases h
  · split at h
    · cases h
    · rename_i htarget
      split at h
      · cases h
      · split at h
        · cases h
        · rename_i hcolor
          exact ⟨not_not.mp hcolor, not_not.mp htarget⟩

theorem mem_ledUnits (s : Light) (u : Fin 3) :
    u ∈ s.ledUnits ↔ (isLit s.mBatteryState → (u = 0 ↔ s.mLightsState = .ledsBattery)) := by
  simp only [ledUnits]
  cases isLit s.mBatteryState with
  | false => fin_cases u <;> simp
  | true => by_cases hk : s.mLightsState = .ledsBattery <;> fin_cases u <;> simp [hk, batteryUnit]

theorem unlit_of_displayed {s : Light} (h : isLit s.displayed = false) :
    isLit s.mNotificationState = false ∧ isLit s.mAttentionState = false ∧
      isLit s.mBatteryState = false := by
  cases hn : isLit s.mNotificationState with
  | true => simp [displayed, hn] at h
  | false =>
    cases ha : isLit s.mAttentionState with
    | true => simp [displayed, hn, ha] at h
    | false => exact ⟨rfl, rfl, by simpa [displayed, hn, ha] using h⟩

theorem isLit_congr {a b : LightState} (h : a.color = b.color) : isLit a = isLit b := by
  rw [isLit, isLit, h]

/-- With the same color, equal targets have the same units: a lit color has bits in the target,
and an unlit one is displayed on all units. -/
theorem mem_ledUnits_of_target {s t : Light} (hcolor : t.displayed.color = s.displayed.color)
    (htarget : t.requestTarget t.displayed = s.requestTarget s.displayed) (u : Fin 3) :
    u ∈ t.ledUnits ↔ u ∈ s.ledUnits := by
  cases hlit : isLit t.displayed with
  | true =>
    simp only [requestTarget, ← hcolor] at htarget
    exact mem_of_ledsProgramTarget_eq ((isLit_iff _).mp hlit) htarget u
  | false =>
    have hs : isLit s.displayed = false := by rw [← isLit_congr hcolor, hlit]
    simp [mem_ledUnits, (unlit_of_displayed hlit).2.2, (unlit_of_displayed hs).2.2]

theorem battery_of_mem_ledUnits {s t : Light} (h : ∀ u, u ∈ t.ledUnits ↔ u ∈ s.ledUnits)
    (hb : isLit t.mBatteryState) :
    isLit s.mBatteryState ∧ (s.mLightsState = .ledsBattery ↔ t.mLightsState = .ledsBattery) := by
  have h0 := h 0
  have h1 := h 1
  rw [mem_ledUnits, mem_ledUnits] at h0 h1
  simp only [hb, true_implies, true_iff] at h0 h1
  by_cases hk : t.mLightsState = .ledsBattery <;> simp_all

/-! ## One LED update -/

theorem selectedState_prepared (s : Light) (c : LightType × LightState) :
    (s.prepared c).mLightsState = (s.prepared c).selectedState :=
  (selectedState_selected (s.store c)).symm

theorem charging_of_selected {s : Light} (hs : s.mLightsState = s.selectedState) :
    s.Charging ↔ isLit s.mBatteryState ∧ s.mLightsState = .ledsBattery := by
  refine ⟨fun h => ⟨h.1, h.2.1⟩, fun h => ⟨h.1, h.2, fun hn => ?_⟩⟩
  rw [selectedState, if_pos hn] at hs
  rw [hs] at h
  cases h.2

/-- The side units of an update: its own ones are left to be drawn. -/
theorem sideLeds_eq {s : Light} (hs : s.mLightsState = s.selectedState) (b : UInt32) (u : Fin 3) :
    s.sideLeds b u = if u ∈ s.ledUnits then s.leds u else s.restLeds b := by
  have hc := charging_of_selected hs
  simp only [sideLeds, hc, mem_ledUnits, restLeds]
  by_cases hb : isLit s.mBatteryState <;> by_cases hk : s.mLightsState = .ledsBattery <;>
    by_cases hu : u = 0 <;> simp [hb, hk, hu]

theorem leds_prepared (s : Light) (c : LightType × LightState) : (s.prepared c).leds = s.leds := by
  obtain ⟨type, state⟩ := c
  cases type <;> rfl

theorem caches_prepared (s : Light) (c : LightType × LightState) :
    (s.prepared c).mLightsARGB = s.mLightsARGB ∧
      (s.prepared c).mSequencerProgramTarget = s.mSequencerProgramTarget ∧
      (s.prepared c).mLightsDelayOn = s.mLightsDelayOn ∧
      (s.prepared c).mLightsDelayOff = s.mLightsDelayOff := by
  obtain ⟨type, state⟩ := c
  cases type <;> exact ⟨rfl, rfl, rfl, rfl⟩

/-- What depends neither on the nodes nor on the caches is unchanged by an update. -/
theorem update_frame {α : Type*} {f : Light → α} (hcore : ∀ s : Light, f s.core = f s)
    (hcaches : ∀ (s : Light) (v : LedsLocals) (n : Nat) (b c : UInt32),
      f (s.storeCaches v n b c) = f s)
    (pick : LedsRgbUpdate → LedsRgbUpdate) (s : Light) (state : LightState) :
    f (s.setSpeakerLightLockedWith pick state) = f s := by
  rw [← hcore, core_setSpeakerLightLockedWith, hcore]
  exact hcaches s _ _ _ _

/-- The nodes after the LED update of a call. -/
theorem leds_update (pick : LedsRgbUpdate → LedsRgbUpdate) (s : Light)
    (c : LightType × LightState) (u : Fin 3) :
    ((s.prepared c).setSpeakerLightLockedWith pick (s.prepared c).displayed).leds u =
      if u ∈ (s.prepared c).ledUnits then
        if pick ((s.prepared c).rgbUpdate (s.prepared c).displayed) = .rgbWrite then
          unitLeds (s.prepared c).mLightsState (colorBrightness (s.prepared c).displayed.color)
            (ledRgb (s.prepared c).displayed.color) u
        else s.leds u
      else (s.prepared c).restLeds (colorBrightness (s.prepared c).displayed.color) := by
  rw [leds_setSpeakerLightLockedWith, sideLeds_eq (selectedState_prepared s c), leds_prepared]
  by_cases hu : u ∈ (s.prepared c).ledUnits <;> simp [hu]

theorem not_skips_iff {s : Light} {c : LightType × LightState} :
    ¬ s.Skips c ↔ (s.prepared c).rgbUpdate (s.prepared c).displayed = .rgbWrite := by
  rw [Skips]
  cases (s.prepared c).rgbUpdate (s.prepared c).displayed <;> simp

theorem leds_call (s : Light) {c : LightType × LightState} (hc : c.1.isLed) (u : Fin 3) :
    (s.call c).leds u =
      if u ∈ (s.prepared c).ledUnits then
        if s.Skips c then s.leds u
        else unitLeds (s.prepared c).mLightsState (colorBrightness (s.prepared c).displayed.color)
          (ledRgb (s.prepared c).displayed.color) u
      else (s.prepared c).restLeds (colorBrightness (s.prepared c).displayed.color) := by
  rw [call_led s hc, leds_update]
  by_cases hskip : s.Skips c
  · have hkeep : (s.prepared c).rgbUpdate (s.prepared c).displayed = .rgbKeep := hskip
    simp [hskip, hkeep]
  · simp [hskip, not_skips_iff.mp hskip]

theorem leds_callWriting (s : Light) {c : LightType × LightState} (hc : c.1.isLed) (u : Fin 3) :
    (s.callWriting c).leds u =
      if u ∈ (s.prepared c).ledUnits then
        unitLeds (s.prepared c).mLightsState (colorBrightness (s.prepared c).displayed.color)
          (ledRgb (s.prepared c).displayed.color) u
      else (s.prepared c).restLeds (colorBrightness (s.prepared c).displayed.color) := by
  rw [callWriting_led s hc, leds_update, if_pos rfl]

/-- What depends neither on the nodes nor on the caches after an LED call. -/
theorem call_frame {α : Type*} {f : Light → α} (hcore : ∀ s : Light, f s.core = f s)
    (hcaches : ∀ (s : Light) (v : LedsLocals) (n : Nat) (b c : UInt32),
      f (s.storeCaches v n b c) = f s)
    (s : Light) {c : LightType × LightState} (hc : c.1.isLed) :
    f (s.call c) = f (s.prepared c) := by
  rw [call_led s hc]
  exact update_frame hcore hcaches id _ _

theorem settled_call (s : Light) {c : LightType × LightState} (hc : c.1.isLed) :
    (s.call c).Settled := by
  rw [call_led s hc]
  exact settled_update id s c

/-- An LED call leaves the displayed state drawn if its units are; the rest always is. -/
theorem drawn_call {s : Light} {d : LedsState} {c : LightType × LightState} (hc : c.1.isLed)
    (hunits : ∀ u ∈ (s.prepared c).ledUnits, (s.call c).leds u =
      unitLeds d (colorBrightness (s.prepared c).displayed.color)
        (ledRgb (s.prepared c).displayed.color) u)
    (hstate : isLit (s.prepared c).mBatteryState →
      (d = .ledsBattery ↔ (s.prepared c).mLightsState = .ledsBattery)) :
    (s.call c).Drawn d := by
  have hledUnits : (s.call c).ledUnits = (s.prepared c).ledUnits :=
    call_frame (fun _ => rfl) (fun _ _ _ _ _ => rfl) s hc
  have hdisplayed : (s.call c).displayed = (s.prepared c).displayed :=
    call_frame (fun _ => rfl) (fun _ _ _ _ _ => rfl) s hc
  have hrest : (s.call c).restLeds = (s.prepared c).restLeds :=
    call_frame (fun _ => rfl) (fun _ _ _ _ _ => rfl) s hc
  have hbattery : (s.call c).mBatteryState = (s.prepared c).mBatteryState :=
    call_frame (fun _ => rfl) (fun _ _ _ _ _ => rfl) s hc
  have hlights : (s.call c).mLightsState = (s.prepared c).mLightsState :=
    call_frame (fun _ => rfl) (fun _ _ _ _ _ => rfl) s hc
  refine ⟨settled_call s hc, fun u hu => ?_, fun u hu => ?_, fun hb => ?_⟩
  · rw [hledUnits] at hu
    rw [hdisplayed, hunits u hu]
  · rw [hledUnits] at hu
    rw [hdisplayed, hrest, leds_call s hc, if_neg hu]
  · rw [hbattery] at hb
    rw [hlights]
    exact hstate hb

theorem drawn_of_not_skips {s : Light} {c : LightType × LightState} (hc : c.1.isLed)
    (hskip : ¬ s.Skips c) : (s.call c).Drawn (s.prepared c).mLightsState := by
  refine drawn_call hc (fun u hu => ?_) fun _ => Iff.rfl
  rw [leds_call s hc, if_pos hu, if_neg hskip]

/-- A skipped write is for the color and the units displayed before. -/
theorem Drawn.repeated {s : Light} {d : LedsState} (h : s.Drawn d) {c : LightType × LightState}
    (hskip : s.Skips c) :
    (s.prepared c).displayed.color = s.displayed.color ∧
      ∀ u, u ∈ (s.prepared c).ledUnits ↔ u ∈ s.ledUnits := by
  obtain ⟨hcolor, htarget⟩ := rgbUpdate_keep hskip
  obtain ⟨hargb, hcache, _, _⟩ := caches_prepared s c
  have hcolor' : (s.prepared c).displayed.color = s.displayed.color := by
    rw [hcolor, hargb, h.settled.argb]
  refine ⟨hcolor', mem_ledUnits_of_target hcolor' ?_⟩
  rw [htarget, hcache, h.settled.target]

theorem Drawn.call_skips {s : Light} {d : LedsState} (h : s.Drawn d)
    {c : LightType × LightState} (hc : c.1.isLed) (hskip : s.Skips c) : (s.call c).Drawn d := by
  obtain ⟨hcolor, hmem⟩ := h.repeated hskip
  refine drawn_call hc (fun u hu => ?_) fun hb => ?_
  · rw [leds_call s hc, if_pos hu, if_pos hskip, hcolor, h.units u ((hmem u).mp hu)]
  · obtain ⟨hb', hk⟩ := battery_of_mem_ledUnits hmem hb
    rw [h.state hb', hk]

theorem Drawn.call_not_led {s : Light} {d : LedsState} (h : s.Drawn d)
    {c : LightType × LightState} (hc : c.1.isLed = false) : (s.call c).Drawn d := by
  obtain ⟨brightness, hcall⟩ := Light.call_not_led s hc
  have hs := settled_core.mpr h.settled
  rw [hcall]
  exact ⟨settled_core.mp hs, h.units, h.rest, h.state⟩

/-! ## Traced runs -/

/-- Before the first write the nodes hold what they held at the start, and no color is cached. -/
structure Undrawn (leds₀ : Fin 3 → Fin 3 → UInt32 × UInt32) (s : Light) : Prop where
  leds : s.leds = leds₀
  argb : s.mLightsARGB = 0

/-- A write that is skipped before the first one is for the color 0, on all units. -/
theorem Undrawn.repeated {leds₀ : Fin 3 → Fin 3 → UInt32 × UInt32} {s : Light}
    (h : s.Undrawn leds₀) {c : LightType × LightState} (hskip : s.Skips c) :
    (s.prepared c).displayed.color = 0 ∧ ∀ u, u ∈ (s.prepared c).ledUnits := by
  have hcolor : (s.prepared c).displayed.color = 0 := by
    rw [(rgbUpdate_keep hskip).1, (caches_prepared s c).1, h.argb]
  have hunlit : isLit (s.prepared c).displayed = false := by rw [isLit, hcolor]; decide
  refine ⟨hcolor, fun u => (mem_ledUnits _ u).mpr fun hb => ?_⟩
  rw [(unlit_of_displayed hunlit).2.2] at hb
  cases hb

theorem Undrawn.call_skips {leds₀ : Fin 3 → Fin 3 → UInt32 × UInt32} {s : Light}
    (h : s.Undrawn leds₀) {c : LightType × LightState} (hc : c.1.isLed) (hskip : s.Skips c) :
    (s.call c).Undrawn leds₀ ∧ isLit (s.call c).displayed = false := by
  obtain ⟨hcolor, hmem⟩ := h.repeated hskip
  have hdisplayed : (s.call c).displayed = (s.prepared c).displayed :=
    call_frame (fun _ => rfl) (fun _ _ _ _ _ => rfl) s hc
  refine ⟨⟨?_, ?_⟩, ?_⟩
  · funext u
    rw [leds_call s hc, if_pos (hmem u), if_pos hskip, h.leds]
  · rw [(settled_call s hc).argb, hdisplayed, hcolor]
  · rw [hdisplayed, isLit, hcolor]; decide

/-- The invariant of a traced run. -/
def Traced (leds₀ : Fin 3 → Fin 3 → UInt32 × UInt32) (x : Light × Option LedsState) : Prop :=
  match x.2 with
  | none => x.1.Undrawn leds₀
  | some d => x.1.Drawn d

theorem Traced.step {leds₀ : Fin 3 → Fin 3 → UInt32 × UInt32} {x : Light × Option LedsState}
    (h : Traced leds₀ x) (c : LightType × LightState) : Traced leds₀ (traced x c) := by
  obtain ⟨s, d⟩ := x
  cases hc : c.1.isLed with
  | false =>
    obtain ⟨brightness, hcall⟩ := Light.call_not_led s hc
    cases d with
    | none =>
      simp only [Traced, traced, hc, Bool.false_eq_true, false_and, if_false] at h ⊢
      rw [hcall]
      exact ⟨h.leds, h.argb⟩
    | some d =>
      simp only [Traced, traced, hc, Bool.false_eq_true, false_and, if_false] at h ⊢
      exact h.call_not_led hc
  | true =>
    by_cases hskip : s.Skips c
    · cases d with
      | none =>
        simp only [Traced, traced, hc, hskip, not_true, and_false, if_false] at h ⊢
        exact (h.call_skips hc hskip).1
      | some d =>
        simp only [Traced, traced, hc, hskip, not_true, and_false, if_false] at h ⊢
        exact h.call_skips hc hskip
    · simp only [Traced, traced, hc, hskip, not_false_eq_true, and_self, if_true]
      exact drawn_of_not_skips hc hskip

theorem Traced.run {leds₀ : Fin 3 → Fin 3 → UInt32 × UInt32} (cs : List (LightType × LightState)) :
    ∀ {x : Light × Option LedsState}, Traced leds₀ x → Traced leds₀ (cs.foldl traced x) := by
  induction cs with
  | nil => intro x h; exact h
  | cons c cs ih => intro x h; exact ih (h.step c)

theorem fst_foldl_traced (cs : List (LightType × LightState)) :
    ∀ x : Light × Option LedsState, (cs.foldl traced x).1 = cs.foldl Light.call x.1 := by
  induction cs with
  | nil => intro x; rfl
  | cons c cs ih => intro x; exact ih (traced x c)

end Light
end Lights
end Huashan
