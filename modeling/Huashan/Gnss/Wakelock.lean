import Huashan.Run

/-!
# Huashan.Gnss.Wakelock

The wake lock of the GNSS service. The two legacy interfaces request it through one flag each, and
`updateWakelock` tells the connected client; what it told last is kept in a static of its own, which
outlives the client.

`follows_iff`: the connected client has been told what the flags say exactly when no client connects
while the wake lock is requested, and none of the requests of a connected client meets a static that
is left over from another client.
-/

namespace Huashan
namespace Gnss

/-- A call of the client's `IGnssCallback`. -/
inductive ClientCall where
  | gnssSetCapabilitesCb (capabilities : UInt32)
  | gnssSetSystemInfoCb (yearOfHw : UInt16)
  | gnssAcquireWakelockCb
  | gnssReleaseWakelockCb
  | gnssRequestTimeCb
  deriving DecidableEq, Repr

def ClientCall.isWakelock : ClientCall → Bool
  | .gnssAcquireWakelockCb => true
  | .gnssReleaseWakelockCb => true
  | _ => false

/-- The last wake lock callback among the calls of a client, the last one first. -/
def lastWakelock (calls : List ClientCall) : Option ClientCall := calls.find? ClientCall.isWakelock

structure State where
  /-- Whether `mGnssIface` is there. -/
  mGnssIface : Bool
  /-- The connected client, as the calls that it has received, the last one first. -/
  sGnssCbIface : Option (List ClientCall)
  sWakelockHeldGnss : Bool
  sWakelockHeldFused : Bool
  /-- The static of `updateWakelock`. -/
  sWakelockHeld : Bool
  sCapabilitiesCached : UInt32
  sYearOfHwCached : UInt16

inductive Event where
  | acquireWakelockCb
  | releaseWakelockCb
  | acquireWakelockFused
  | releaseWakelockFused
  | setCapabilitiesCb (capabilities : UInt32)
  /-- `info` is its `year_of_hw`. -/
  | setSystemInfoCb (info : Option UInt16)
  | requestUtcTimeCb
  /-- A new client connects; `callback` is whether it is not `nullptr`. -/
  | setCallback (callback : Bool)
  | handleHidlDeath

namespace State

def init (mGnssIface : Bool) : State where
  mGnssIface := mGnssIface
  sGnssCbIface := none
  sWakelockHeldGnss := false
  sWakelockHeldFused := false
  sWakelockHeld := false
  sCapabilitiesCached := 0
  sYearOfHwCached := 0

/-- One of the two requests is there. -/
def requested (s : State) : Bool := s.sWakelockHeldGnss || s.sWakelockHeldFused

def updateWakelock (s : State) : State :=
  match s.sGnssCbIface with
  | none => s
  | some calls =>
    if s.sWakelockHeldGnss || s.sWakelockHeldFused then
      if !s.sWakelockHeld then
        { s with sWakelockHeld := true, sGnssCbIface := some (.gnssAcquireWakelockCb :: calls) }
      else s
    else { s with sWakelockHeld := false, sGnssCbIface := some (.gnssReleaseWakelockCb :: calls) }

def acquireWakelockGnss (s : State) : State := { s with sWakelockHeldGnss := true }.updateWakelock

def releaseWakelockGnss (s : State) : State := { s with sWakelockHeldGnss := false }.updateWakelock

def acquireWakelockCb (s : State) : State := s.acquireWakelockGnss

def releaseWakelockCb (s : State) : State := s.releaseWakelockGnss

def acquireWakelockFused (s : State) : State := { s with sWakelockHeldFused := true }.updateWakelock

def releaseWakelockFused (s : State) : State :=
  { s with sWakelockHeldFused := false }.updateWakelock

def setCapabilitiesCb (s : State) (capabilities : UInt32) : State :=
  match s.sGnssCbIface with
  | none => s
  | some calls =>
    { s with
      sGnssCbIface := some (.gnssSetCapabilitesCb capabilities :: calls)
      sCapabilitiesCached := capabilities }

def setSystemInfoCb (s : State) (info : Option UInt16) : State :=
  match s.sGnssCbIface, info with
  | some calls, some yearOfHw =>
    { s with
      sGnssCbIface := some (.gnssSetSystemInfoCb yearOfHw :: calls)
      sYearOfHwCached := yearOfHw }
  | _, _ => s

def requestUtcTimeCb (s : State) : State :=
  match s.sGnssCbIface with
  | none => s
  | some calls => { s with sGnssCbIface := some (.gnssRequestTimeCb :: calls) }

/-- Up to the call of `init`, which the vendor answers with callbacks of its own. -/
def setCallback (s : State) (callback : Bool) : State :=
  if !s.mGnssIface then s
  else if !callback then s
  else
    let s₁ := { s with sGnssCbIface := some [] }
    let s₂ := if s₁.sCapabilitiesCached ≠ 0 then s₁.setCapabilitiesCb s₁.sCapabilitiesCached else s₁
    if s₂.sYearOfHwCached ≠ 0 then s₂.setSystemInfoCb (some s₂.sYearOfHwCached) else s₂

def handleHidlDeath (s : State) : State := { s with sGnssCbIface := none }

def step (s : State) : Event → Option State
  | .acquireWakelockCb => some s.acquireWakelockCb
  | .releaseWakelockCb => some s.releaseWakelockCb
  | .acquireWakelockFused => some s.acquireWakelockFused
  | .releaseWakelockFused => some s.releaseWakelockFused
  | .setCapabilitiesCb capabilities => some (s.setCapabilitiesCb capabilities)
  | .setSystemInfoCb info => some (s.setSystemInfoCb info)
  | .requestUtcTimeCb => some s.requestUtcTimeCb
  | .setCallback callback => some (s.setCallback callback)
  | .handleHidlDeath => some s.handleHidlDeath

/-- The connected client was told last what the flags say, or nothing where they say nothing. -/
def Follows (s : State) : Prop :=
  ∀ calls, s.sGnssCbIface = some calls →
    if s.requested then lastWakelock calls = some .gnssAcquireWakelockCb
    else lastWakelock calls = some .gnssReleaseWakelockCb ∨ lastWakelock calls = none

/-- No client connects while the wake lock is requested, and the first request of a connected client
finds `sWakelockHeld` clear. -/
def Refreshed (s : State) : Event → Prop
  | .setCallback true => s.mGnssIface = true → s.requested = false
  | .acquireWakelockCb => s.sGnssCbIface ≠ none → s.requested = false → s.sWakelockHeld = false
  | .acquireWakelockFused => s.sGnssCbIface ≠ none → s.requested = false → s.sWakelockHeld = false
  | _ => True

/-! ## What the client was told -/

/-- What a connected client was told last, if there is one. -/
def told (s : State) : Option (Option ClientCall) := s.sGnssCbIface.map lastWakelock

/-- What `Follows` and `Refreshed` look at. -/
def lock (s : State) : Bool × Option (Option ClientCall) × Bool × Bool × Bool :=
  (s.mGnssIface, s.told, s.sWakelockHeldGnss, s.sWakelockHeldFused, s.sWakelockHeld)

/-- While the wake lock is requested the static is set, so that nothing is told twice. -/
def Good (s : State) : Prop :=
  ∀ last, s.told = some last →
    if s.requested then last = some .gnssAcquireWakelockCb ∧ s.sWakelockHeld = true
    else last = some .gnssReleaseWakelockCb ∨ last = none

theorem Good.follows {s : State} (hs : s.Good) : s.Follows := by
  intro calls hcalls
  have hgood := hs (lastWakelock calls) (by rw [told, hcalls]; rfl)
  split at hgood
  · next hreq => rw [if_pos hreq]; exact hgood.1
  · next hreq => rw [if_neg hreq]; exact hgood

theorem Good.of_lock {s t : State} (hs : s.Good) (h : t.lock = s.lock) : t.Good := by
  simp only [lock, Prod.mk.injEq] at h
  obtain ⟨_, htold, hgnss, hfused, hheld⟩ := h
  unfold Good requested at *
  rw [htold, hgnss, hfused, hheld]
  exact hs

theorem lock_setCapabilitiesCb (s : State) (capabilities : UInt32) :
    (s.setCapabilitiesCb capabilities).lock = s.lock := by
  unfold setCapabilitiesCb
  split
  · rfl
  · next calls hcalls => simp [lock, told, hcalls, lastWakelock, ClientCall.isWakelock]

theorem lock_setSystemInfoCb (s : State) (info : Option UInt16) :
    (s.setSystemInfoCb info).lock = s.lock := by
  unfold setSystemInfoCb
  split
  · next calls _ hcalls => simp [lock, told, hcalls, lastWakelock, ClientCall.isWakelock]
  · rfl

theorem lock_requestUtcTimeCb (s : State) : s.requestUtcTimeCb.lock = s.lock := by
  unfold requestUtcTimeCb
  split
  · rfl
  · next calls hcalls => simp [lock, told, hcalls, lastWakelock, ClientCall.isWakelock]

/-- What is sent up again for a new client says nothing of the wake lock. -/
theorem lock_setCallback {s : State} (hiface : s.mGnssIface = true) :
    (s.setCallback true).lock = { s with sGnssCbIface := some [] }.lock := by
  unfold setCallback
  simp only [hiface, Bool.not_true, Bool.false_eq_true, if_false]
  split <;> split <;> simp only [lock_setSystemInfoCb, lock_setCapabilitiesCb]

theorem setCallback_ignored {s : State} {callback : Bool}
    (h : ¬(s.mGnssIface = true ∧ callback = true)) : s.setCallback callback = s := by
  unfold setCallback
  cases hiface : s.mGnssIface with
  | false => rfl
  | true =>
    cases callback with
    | false => rfl
    | true => exact absurd ⟨hiface, rfl⟩ h

/-! ## What the flags do -/

theorem updateWakelock_alone {s : State} (h : s.sGnssCbIface = none) : s.updateWakelock = s := by
  unfold updateWakelock
  rw [h]

theorem good_alone {s : State} (h : s.sGnssCbIface = none) : s.Good := by
  intro last hlast
  rw [told, h] at hlast
  cases hlast

theorem updateWakelock_connected {s : State} {calls : List ClientCall}
    (hcalls : s.sGnssCbIface = some calls) : s.updateWakelock =
      if s.requested then
        if s.sWakelockHeld then s
        else { s with
          sWakelockHeld := true
          sGnssCbIface := some (.gnssAcquireWakelockCb :: calls) }
      else { s with
        sWakelockHeld := false
        sGnssCbIface := some (.gnssReleaseWakelockCb :: calls) } := by
  unfold updateWakelock requested
  rw [hcalls]
  cases s.sWakelockHeld <;> rfl

/-- A release that leaves the wake lock unrequested tells the client so. -/
theorem good_updateWakelock_release {s : State} (h : s.requested = false) :
    s.updateWakelock.Good := by
  cases hcalls : s.sGnssCbIface with
  | none =>
    rw [updateWakelock_alone hcalls]
    exact good_alone hcalls
  | some calls =>
    rw [updateWakelock_connected hcalls, h, if_neg Bool.false_ne_true]
    intro last hlast
    cases hlast
    have hunrequested : requested { s with
        sWakelockHeld := false
        sGnssCbIface := some (.gnssReleaseWakelockCb :: calls) } = false := h
    rw [hunrequested, if_neg Bool.false_ne_true]
    exact .inl rfl

/-- A request for a connected client is told exactly when the static is clear. -/
theorem updateWakelock_request {s : State} {calls : List ClientCall}
    (hcalls : s.sGnssCbIface = some calls) (h : s.requested = true) :
    s.updateWakelock.told = some (if s.sWakelockHeld then lastWakelock calls
      else some .gnssAcquireWakelockCb) ∧ s.updateWakelock.sWakelockHeld = true ∧
      s.updateWakelock.requested = true := by
  rw [updateWakelock_connected hcalls, if_pos h]
  cases hheld : s.sWakelockHeld with
  | false => exact ⟨rfl, rfl, h⟩
  | true => exact ⟨by simp [told, hcalls], hheld, h⟩

/-- `t` is `s` after one more of the flags is set. -/
theorem follows_acquire_iff {s t : State} (hs : s.Good) (hiface : t.sGnssCbIface = s.sGnssCbIface)
    (hheld : t.sWakelockHeld = s.sWakelockHeld) (ht : t.requested = true) :
    (t.updateWakelock.Follows ↔
      (s.sGnssCbIface ≠ none → s.requested = false → s.sWakelockHeld = false)) ∧
      (t.updateWakelock.Follows → t.updateWakelock.Good) := by
  cases hcalls : s.sGnssCbIface with
  | none =>
    have halone : t.updateWakelock.Good := by
      rw [updateWakelock_alone (hiface.trans hcalls)]
      exact good_alone (hiface.trans hcalls)
    exact ⟨iff_of_true halone.follows fun h => absurd rfl h, fun _ => halone⟩
  | some calls =>
    obtain ⟨htold, hheld', hreq⟩ := updateWakelock_request (hiface.trans hcalls) ht
    rw [hheld] at htold
    have hfollows : t.updateWakelock.Follows →
        (if s.sWakelockHeld then lastWakelock calls else some .gnssAcquireWakelockCb) =
          some .gnssAcquireWakelockCb := by
      intro h
      obtain ⟨calls', hcalls', hlast⟩ := Option.map_eq_some_iff.mp htold
      have hlock := h calls' hcalls'
      rw [if_pos hreq, hlast] at hlock
      exact hlock
    have hgood : (if s.sWakelockHeld then lastWakelock calls else some .gnssAcquireWakelockCb) =
        some .gnssAcquireWakelockCb → t.updateWakelock.Good := by
      intro h last hlast
      rw [htold, h] at hlast
      rw [if_pos hreq]
      exact ⟨(Option.some.inj hlast).symm, hheld'⟩
    have hbefore := hs (lastWakelock calls) (by rw [told, hcalls]; rfl)
    refine ⟨⟨fun h _ hunrequested => ?_, fun h => (hgood ?_).follows⟩, fun h => hgood (hfollows h)⟩
    · -- an unrequested wake lock was not told to be acquired
      by_contra hstatic
      have hlast := hfollows h
      rw [if_pos (by simpa using hstatic)] at hlast
      rw [hunrequested, hlast] at hbefore
      obtain hbefore | hbefore := hbefore <;> cases hbefore
    · cases hrequested : s.requested with
      | false => rw [h (by simp) hrequested]; rfl
      | true =>
        rw [hrequested] at hbefore
        obtain ⟨hlast, hstatic⟩ := hbefore
        rw [hstatic]
        exact hlast

/-- `t` is `s` after one of the flags is cleared. -/
theorem good_release {s t : State} (hs : s.Good) (hiface : t.sGnssCbIface = s.sGnssCbIface)
    (hheld : t.sWakelockHeld = s.sWakelockHeld) (hreq : t.requested = true → s.requested = true) :
    t.updateWakelock.Good := by
  cases ht : t.requested with
  | false => exact good_updateWakelock_release ht
  | true =>
    -- the other flag is set, and nothing has to be told
    obtain ⟨hexact, hgood⟩ := follows_acquire_iff hs hiface hheld ht
    refine hgood (hexact.mpr fun _ hunrequested => ?_)
    rw [hreq ht] at hunrequested
    cases hunrequested

/-! ## Whole runs -/

theorem follows_setCallback_iff {s : State} (hs : s.Good) (callback : Bool) :
    ((s.setCallback callback).Follows ↔ s.Refreshed (.setCallback callback)) ∧
      ((s.setCallback callback).Follows → (s.setCallback callback).Good) := by
  by_cases h : s.mGnssIface = true ∧ callback = true
  · obtain ⟨hiface, rfl⟩ := h
    have hlock := lock_setCallback hiface
    have htold : (s.setCallback true).told = some none := congrArg (fun l => l.2.1) hlock
    have hreq : (s.setCallback true).requested = s.requested :=
      congrArg (fun l : Bool × Option (Option ClientCall) × Bool × Bool × Bool =>
        l.2.2.1 || l.2.2.2.1) hlock
    have hgood : s.requested = false → (s.setCallback true).Good := by
      intro hunrequested last hlast
      rw [htold] at hlast
      cases hlast
      rw [hreq, hunrequested]
      exact .inr rfl
    have hfollows : (s.setCallback true).Follows → s.requested = false := by
      intro hfollows
      obtain ⟨calls, hcalls, hlast⟩ := Option.map_eq_some_iff.mp htold
      have hlast' := hfollows calls hcalls
      rw [hlast] at hlast'
      by_contra hrequested
      rw [hreq, if_pos (by simpa using hrequested)] at hlast'
      cases hlast'
    exact ⟨⟨fun h _ => hfollows h, fun h => (hgood (h hiface)).follows⟩,
      fun h => hgood (hfollows h)⟩
  · rw [setCallback_ignored h]
    refine ⟨iff_of_true hs.follows ?_, fun _ => hs⟩
    cases callback with
    | false => trivial
    | true => exact fun hiface => absurd ⟨hiface, rfl⟩ h

theorem follows_step {s s' : State} {ev : Event} (hs : s.Good) (h : s.step ev = some s') :
    (s'.Follows ↔ s.Refreshed ev) ∧ (s'.Follows → s'.Good) := by
  have hkept : ∀ {t : State}, t.Good → (t.Follows ↔ True) ∧ (t.Follows → t.Good) :=
    fun ht => ⟨iff_of_true ht.follows trivial, fun _ => ht⟩
  cases ev with
  | acquireWakelockCb =>
    cases h
    exact follows_acquire_iff hs rfl rfl rfl
  | releaseWakelockCb =>
    cases h
    refine hkept (good_release hs rfl rfl fun hreq => ?_)
    exact Bool.or_eq_true_iff.mpr (.inr hreq)
  | acquireWakelockFused =>
    cases h
    exact follows_acquire_iff hs rfl rfl (Bool.or_true _)
  | releaseWakelockFused =>
    cases h
    refine hkept (good_release hs rfl rfl fun hreq => ?_)
    exact Bool.or_eq_true_iff.mpr (.inl ((Bool.or_false _).symm.trans hreq))
  | setCapabilitiesCb capabilities =>
    cases h
    exact hkept (hs.of_lock (lock_setCapabilitiesCb s capabilities))
  | setSystemInfoCb info =>
    cases h
    exact hkept (hs.of_lock (lock_setSystemInfoCb s info))
  | requestUtcTimeCb =>
    cases h
    exact hkept (hs.of_lock (lock_requestUtcTimeCb s))
  | setCallback callback =>
    cases h
    exact follows_setCallback_iff hs callback
  | handleHidlDeath =>
    cases h
    exact hkept (good_alone rfl)

/-- In every run, the connected client knows what the flags say after each step exactly when each
step is `Refreshed`. -/
theorem follows_iff (mGnssIface : Bool) (es : List Event) :
    Always Follows step (init mGnssIface) es ↔ AllMeet Refreshed step (init mGnssIface) es := by
  refine always_iff_allMeet Good ?_ ?_ (good_alone rfl)
  · intro s ev s' hs hev h
    obtain ⟨hexact, hgood⟩ := follows_step hs h
    exact hgood (hexact.mpr hev)
  · intro s ev s' hs h
    exact (follows_step hs h).1

/-- The client dies while the wake lock is requested, and the next one is not told. -/
theorem next_client_untold :
    ¬∀ (mGnssIface : Bool) (es : List Event), Always Follows step (init mGnssIface) es := by
  intro h
  have hrun := h true [.setCallback true, .acquireWakelockCb, .handleHidlDeath, .setCallback true]
  have hlast : Follows _ := ((((hrun _ rfl).2 _ rfl).2 _ rfl).2 _ rfl).1
  cases hlast [] rfl

end State
end Gnss
end Huashan
