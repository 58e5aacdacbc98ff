import Huashan.Lights.Target
import Huashan.Run

/-!
# Huashan.Lights.Display

What a call of `setLight` displays. A call stores its state, selects the state to display and
updates the LEDs for it. After that the caches hold the request that was made (`Settled`), and a
later write is skipped only when it repeats that request for the same units.
-/

namespace Huashan
namespace Lights

/-- The light types whose calls update the LEDs. -/
def LightType.isLed : LightType → Bool
  | .attention | .battery | .notifications => true
  | _ => false

namespace Light

/-- The state displayed: the notification, else the attention, else the battery. -/
def displayed (s : Light) : LightState :=
  if isLit s.mNotificationState then s.mNotificationState
  else if isLit s.mAttentionState then s.mAttentionState
  else s.mBatteryState

/-- `mLightsState` while the displayed state is shown; the attention leaves it as it is. -/
def selectedState (s : Light) : LedsState :=
  if isLit s.mNotificationState then .ledsNotifications
  else if isLit s.mAttentionState then s.mLightsState
  else .ledsBattery

def selected (s : Light) : Light := { s with mLightsState := s.selectedState }

/-- The state of a call stored. -/
def store (s : Light) (c : LightType × LightState) : Light :=
  match c.1 with
  | .attention => { s with mAttentionState := c.2 }
  | .battery => { s with mBatteryState := c.2 }
  | .notifications => { s with mNotificationState := c.2 }
  | _ => s

/-- The object in which the LEDs of a call are updated. -/
def prepared (s : Light) (c : LightType × LightState) : Light := (s.store c).selected

theorem setSpeakerBatteryLightLockedWith_eq (pick : LedsRgbUpdate → LedsRgbUpdate) (s : Light) :
    s.setSpeakerBatteryLightLockedWith pick =
      s.selected.setSpeakerLightLockedWith pick s.displayed := by
  simp only [setSpeakerBatteryLightLockedWith, selected, selectedState, displayed]
  split
  · rfl
  · split <;> rfl

theorem selectedState_selected (s : Light) : s.selected.selectedState = s.selectedState := by
  cases hn : isLit s.mNotificationState <;> cases ha : isLit s.mAttentionState <;>
    simp [selected, selectedState, hn, ha]

theorem setLightWith_led (pick : LedsRgbUpdate → LedsRgbUpdate) (s : Light)
    {c : LightType × LightState} (hc : c.1.isLed) :
    (s.setLightWith pick c.1 c.2).1 =
      (s.prepared c).setSpeakerLightLockedWith pick (s.prepared c).displayed := by
  obtain ⟨type, state⟩ := c
  refine Eq.trans ?_ (setSpeakerBatteryLightLockedWith_eq pick (s.store (type, state)))
  cases type with
  | attention | battery | notifications => rfl
  | backlight | keyboard | buttons | bluetooth | wifi => cases hc

theorem call_led (s : Light) {c : LightType × LightState} (hc : c.1.isLed) :
    s.call c = (s.prepared c).setSpeakerLightLockedWith id (s.prepared c).displayed :=
  setLightWith_led id s hc

theorem callWriting_led (s : Light) {c : LightType × LightState} (hc : c.1.isLed) :
    s.callWriting c =
      (s.prepared c).setSpeakerLightLockedWith (fun _ => .rgbWrite) (s.prepared c).displayed :=
  setLightWith_led (fun _ => .rgbWrite) s hc

/-- The calls of the other types only write the backlights. -/
theorem call_not_led (s : Light) {c : LightType × LightState} (hc : c.1.isLed = false) :
    ∃ brightness, s.call c = { s with sysfs := { s.sysfs with backlight := brightness } } := by
  obtain ⟨type, state⟩ := c
  cases type with
  | backlight => exact ⟨_, rfl⟩
  | keyboard | buttons | bluetooth | wifi => exact ⟨s.sysfs.backlight, rfl⟩
  | attention | battery | notifications => cases hc

/-! ## Sample inputs -/

/-- Nodes that hold 0. -/
def darkNodes : Sysfs := ⟨fun _ => 0, fun _ => 0, fun _ => "", fun _ => "", "", fun _ => 0, []⟩

/-- A light that does not flash. -/
def steady (color : UInt32) : LightState := ⟨color, .none, 0, 0⟩

/-- A light that flashes. -/
def flashing (color : UInt32) (on off : Int32) : LightState := ⟨color, .timed, on, off⟩

/-! ## The caches hold the last request -/

/-- The caches hold the request to show the displayed state. -/
structure Settled (s : Light) : Prop where
  selected : s.mLightsState = s.selectedState
  delayOn : s.mLightsDelayOn = (s.effective s.displayed).delayOn
  delayOff : s.mLightsDelayOff = (s.effective s.displayed).delayOff
  brightness : s.mLightsBrightness = colorBrightness s.displayed.color
  target : s.mSequencerProgramTarget = s.requestTarget s.displayed
  argb : s.mLightsARGB = s.displayed.color

/-- What the object is settled on does not depend on its nodes. -/
theorem settled_core {s : Light} : s.core.Settled ↔ s.Settled :=
  ⟨fun h => ⟨h.selected, h.delayOn, h.delayOff, h.brightness, h.target, h.argb⟩,
    fun h => ⟨h.selected, h.delayOn, h.delayOff, h.brightness, h.target, h.argb⟩⟩

theorem settled_cached {s : Light} (hs : s.mLightsState = s.selectedState) :
    (s.cached s.displayed).Settled := ⟨hs, rfl, rfl, rfl, rfl, rfl⟩

/-- Every LED update settles the object on the state it displays. -/
theorem settled_update (pick : LedsRgbUpdate → LedsRgbUpdate) (s : Light)
    (c : LightType × LightState) :
    ((s.prepared c).setSpeakerLightLockedWith pick (s.prepared c).displayed).Settled := by
  have hsel : (s.prepared c).mLightsState = (s.prepared c).selectedState :=
    (selectedState_selected (s.store c)).symm
  rw [← settled_core, core_setSpeakerLightLockedWith, settled_core]
  exact settled_cached hsel

end Light
end Lights
end Huashan
