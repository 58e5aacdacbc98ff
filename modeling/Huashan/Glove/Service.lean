import Huashan.Run

/-!
# Huashan.Glove.Service

`GloveModeService.java`: the touch node is written when the service starts, when a preference
changes, and when the screen goes on and the last update is older than `GLOVE_UPDATE_DELTA`.

A write can fail, and the service only logs it; `writes` keeps every attempt with its outcome. The
time of the last update is stored before the attempt, so a failed one holds back the next as long
as a successful one: `restoresWrites_iff` says in which runs this is not seen.
-/

namespace Huashan
namespace Glove

/-- 15 minutes, in milliseconds. -/
def gloveUpdateDelta : Int := 900000

/-- An attempt to write the touch node: 0 is the glove mode, and 1 is not. -/
structure Write where
  time : Int
  value : Nat
  written : Bool
  deriving DecidableEq, Repr

/-- The service, the settings it reads and writes, and what it has done to the touch node. The
times are those of `currentTimeMillis`. They are a `long` in the source and have no bounds here: no
clock comes near those of a `long`, and no difference of two times overflows. -/
structure GloveModeService where
  mLastGloveModeUpdate : Int
  mGloveModeEnabled : Bool
  /-- `HIGH_TOUCH_SENSITIVITY_ENABLE`, if it is set. -/
  highTouchSensitivityEnable : Option Int32
  /-- `glovemode-initiated`. -/
  gloveModeInitiated : Bool
  /-- `mScreenStateReceiver` and `mPreferencesListener` are registered. -/
  registered : Bool
  /-- The time of the last event. -/
  clock : Int
  /-- The last one first. -/
  writes : List Write

namespace GloveModeService

/-- A service that has not been started. -/
def new (setting : Option Int32) (initiated : Bool) (clock : Int) : GloveModeService where
  mLastGloveModeUpdate := 0
  mGloveModeEnabled := false
  highTouchSensitivityEnable := setting
  gloveModeInitiated := initiated
  registered := false
  clock := clock
  writes := []

def getGloveModeEnabled (s : GloveModeService) : GloveModeService :=
  { s with mGloveModeEnabled := s.highTouchSensitivityEnable.getD 1 = 1 }

/-- `put` is what `putIntSystem` returns if it is called. -/
def initializeGloveMode (s : GloveModeService) (put : Bool) : GloveModeService :=
  if !s.gloveModeInitiated && put then
    { s with highTouchSensitivityEnable := some 1, gloveModeInitiated := true }
  else s

/-- `written` says whether the write, if there is one, succeeds. -/
def updateGloveMode (s : GloveModeService) (configure : Bool) (currentTimeMs : Int)
    (written : Bool) : GloveModeService :=
  if !s.mGloveModeEnabled && !configure then s
  else if currentTimeMs - s.mLastGloveModeUpdate > gloveUpdateDelta || configure then
    { s with
      mLastGloveModeUpdate := currentTimeMs
      writes := ⟨currentTimeMs, if s.mGloveModeEnabled then 0 else 1, written⟩ :: s.writes }
  else s

def onStartCommand (s : GloveModeService) (put : Bool) (currentTimeMs : Int) (written : Bool) :
    GloveModeService :=
  { s with registered := true }.initializeGloveMode put
    |>.getGloveModeEnabled
    |>.updateGloveMode true currentTimeMs written

def onSharedPreferenceChanged (s : GloveModeService) (currentTimeMs : Int) (written : Bool) :
    GloveModeService :=
  s.getGloveModeEnabled.updateGloveMode true currentTimeMs written

/-- `onReceive` for `ACTION_SCREEN_OFF`. -/
def onScreenOff (s : GloveModeService) : GloveModeService := s.getGloveModeEnabled

/-- `onReceive` for `ACTION_SCREEN_ON`. -/
def onScreenOn (s : GloveModeService) (currentTimeMs : Int) (written : Bool) : GloveModeService :=
  s.updateGloveMode false currentTimeMs written

end GloveModeService

/-! ## Runs -/

/-- What happens to the service at the time `now`; `setting` is a change of the setting by others.
A receiver that is registered twice handles an event twice, at one time. -/
inductive Event where
  | start (now : Int) (put written : Bool)
  | screenOn (now : Int) (written : Bool)
  | screenOff (now : Int)
  | preference (now : Int) (written : Bool)
  | setting (now : Int) (value : Option Int32)

def Event.now : Event → Int
  | .start now _ _ | .screenOn now _ | .screenOff now | .preference now _ | .setting now _ => now

/-- The events that only a started service is told of. -/
def Event.received : Event → Bool
  | .start .. | .setting .. => false
  | _ => true

namespace GloveModeService

def handle (s : GloveModeService) : Event → GloveModeService
  | .start now put written => s.onStartCommand put now written
  | .screenOn now written => s.onScreenOn now written
  | .screenOff _ => s.onScreenOff
  | .preference now written => s.onSharedPreferenceChanged now written
  | .setting _ value => { s with highTouchSensitivityEnable := value }

/-- The clock does not go back. -/
def step (s : GloveModeService) (e : Event) : Option GloveModeService :=
  if s.clock ≤ e.now ∧ (e.received → s.registered) then
    some ({ s with clock := e.now }.handle e)
  else none

/-- The time of the last write that succeeded. -/
def lastWritten (s : GloveModeService) : Option Int :=
  (s.writes.find? (·.written)).map (·.time)

/-- No write has succeeded, or the last one that has is older than 15 minutes. -/
def Stale (s : GloveModeService) (now : Int) : Prop :=
  ∀ time ∈ s.lastWritten, now - time > gloveUpdateDelta

/-- Across a screen-on with the glove mode enabled, a stale node is written, or tried to be. -/
def Restores (s : GloveModeService) (e : Event) (s' : GloveModeService) : Prop :=
  match e with
  | .screenOn now written =>
    s.mGloveModeEnabled → s.Stale now → s'.writes = ⟨now, 0, written⟩ :: s.writes
  | _ => True

/-- The last write failed, and not more than 15 minutes ago. -/
def FailedLately (s : GloveModeService) (now : Int) : Prop :=
  ∃ w ∈ s.writes.head?, w.written = false ∧ now - w.time ≤ gloveUpdateDelta

/-- A screen-on with the glove mode enabled does not find a write that failed lately, unless one
before it has succeeded in the last 15 minutes. -/
def NotHeldBack (s : GloveModeService) (e : Event) : Prop :=
  match e with
  | .screenOn now _ => s.mGloveModeEnabled → s.Stale now → ¬ s.FailedLately now
  | _ => True

/-- The stored time is that of the last attempt. -/
def Stamped (s : GloveModeService) : Prop :=
  s.registered → ∃ w ws, s.writes = w :: ws ∧ w.time = s.mLastGloveModeUpdate

/-! ## What a step does -/

/-- An attempt to write the node, at the time it is made. -/
def attempt (s : GloveModeService) (now : Int) (written : Bool) : GloveModeService :=
  { s with
    mLastGloveModeUpdate := now
    writes := ⟨now, if s.mGloveModeEnabled then 0 else 1, written⟩ :: s.writes }

theorem updateGloveMode_forced (s : GloveModeService) (now : Int) (written : Bool) :
    s.updateGloveMode true now written = s.attempt now written := by
  simp [updateGloveMode, attempt]

theorem updateGloveMode_disabled {s : GloveModeService} (h : s.mGloveModeEnabled = false)
    (now : Int) (written : Bool) : s.updateGloveMode false now written = s := by
  simp [updateGloveMode, h]

theorem updateGloveMode_enabled {s : GloveModeService} (h : s.mGloveModeEnabled = true)
    (now : Int) (written : Bool) : s.updateGloveMode false now written =
      if now - s.mLastGloveModeUpdate > gloveUpdateDelta then s.attempt now written else s := by
  simp [updateGloveMode, attempt, h]

theorem stamped_attempt (s : GloveModeService) (now : Int) (written : Bool) :
    (s.attempt now written).Stamped := fun _ => ⟨_, _, rfl, rfl⟩

theorem step_eq_some {s s' : GloveModeService} {e : Event} (h : s.step e = some s') :
    s' = { s with clock := e.now }.handle e ∧ (e.received → s.registered) := by
  unfold step at h
  split at h
  · rename_i hguard
    cases h
    exact ⟨rfl, hguard.2⟩
  · cases h

theorem Stamped.handle {s : GloveModeService} (hs : s.Stamped) (e : Event) :
    (s.handle e).Stamped := by
  cases e with
  | start now put written =>
    rw [GloveModeService.handle, onStartCommand, updateGloveMode_forced]
    exact stamped_attempt _ _ _
  | preference now written =>
    rw [GloveModeService.handle, onSharedPreferenceChanged, updateGloveMode_forced]
    exact stamped_attempt _ _ _
  | screenOn now written =>
    rw [GloveModeService.handle, onScreenOn]
    cases henabled : s.mGloveModeEnabled with
    | false =>
      rw [updateGloveMode_disabled henabled]
      exact hs
    | true =>
      rw [updateGloveMode_enabled henabled]
      split
      · exact stamped_attempt _ _ _
      · exact hs
  | screenOff now => exact hs
  | setting now value => exact hs

theorem Stamped.step {s s' : GloveModeService} {e : Event} (hs : s.Stamped)
    (h : s.step e = some s') : s'.Stamped := by
  have htick : { s with clock := e.now }.Stamped := hs
  rw [(step_eq_some h).1]
  exact htick.handle e

/-- With the glove mode enabled, a screen-on tries to write the node exactly when the last attempt
is older than 15 minutes, whatever came of it. -/
theorem writes_onScreenOn {s : GloveModeService} (henabled : s.mGloveModeEnabled = true)
    (now : Int) (written : Bool) :
    (s.onScreenOn now written).writes = ⟨now, 0, written⟩ :: s.writes ↔
      now - s.mLastGloveModeUpdate > gloveUpdateDelta := by
  rw [onScreenOn, updateGloveMode_enabled henabled]
  by_cases hold : now - s.mLastGloveModeUpdate > gloveUpdateDelta
  · simp [hold, attempt, henabled]
  · simp [hold]

theorem restores_iff {s s' : GloveModeService} {e : Event} (hs : s.Stamped)
    (h : s.step e = some s') : s.Restores e s' ↔ s.NotHeldBack e := by
  cases e with
  | screenOn now written =>
    refine forall_congr' fun henabled => forall_congr' fun hstale => ?_
    obtain ⟨w, ws, hwrites, htime⟩ := hs ((step_eq_some h).2 rfl)
    have hfailed : s.FailedLately now ↔ w.written = false ∧ now - w.time ≤ gloveUpdateDelta := by
      simp [FailedLately, hwrites]
    have hwritesOn := writes_onScreenOn (s := { s with clock := now }) henabled now written
    rw [(step_eq_some h).1, hfailed, htime]
    refine hwritesOn.trans ?_
    cases hw : w.written with
    | true =>
      -- the last attempt is the last success, and the node is stale
      have hlast : s.lastWritten = some w.time := by
        simp [lastWritten, hwrites, hw]
      have hold := hstale w.time (by rw [hlast]; rfl)
      rw [htime] at hold
      simp [hold]
    | false =>
      simp only [true_and]
      omega
  | start now put written => exact Iff.rfl
  | screenOff now => exact Iff.rfl
  | preference now written => exact Iff.rfl
  | setting now value => exact Iff.rfl

/-- In a run from a service that has not been started, every screen-on with the glove mode enabled
tries to write a stale node exactly when none of them is held back by a failed write. -/
theorem restoresWrites_iff (setting : Option Int32) (initiated : Bool) (clock : Int)
    (es : List Event) :
    Across Restores step (new setting initiated clock) es ↔
      AllMeet NotHeldBack step (new setting initiated clock) es := by
  refine across_iff_allMeet Stamped ?_ ?_ ?_
  · intro s e s' hs _ h
    exact hs.step h
  · intro s e s' hs h
    exact restores_iff hs h
  · intro hregistered
    cases hregistered

/-- The write of the service start fails, and a screen-on one minute later does not repeat it. -/
theorem failed_write_not_restored : ¬ ∀ es,
    Across Restores step (new none false 0) es := by
  intro h
  have hrun := h [.start 1600000000000 true false, .screenOn 1600000060000 true]
  have hscreenOn := ((hrun _ rfl).2 _ rfl).1 rfl (by intro time htime; cases htime)
  revert hscreenOn
  decide

end GloveModeService
end Glove
end Huashan
