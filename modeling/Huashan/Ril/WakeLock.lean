import Huashan.Run

/-!
# Huashan.Ril.WakeLock

The wake lock `radio-interface` of `ril.cpp`: `grabPartialWakeLock` and `releaseWakeLock` count the
users of one kernel lock, and a timer releases it when they do not. A timer is cancelled by its
`userParam`; the queue holds it until it fires.

`accounted_iff`: the count, the lock and the timer agree exactly as long as no timer request fails
while the lock is in use.
-/

namespace Huashan
namespace Ril

/-- The functions a timer can call: the one of `ril.cpp`, or one of the vendor. -/
inductive TimedCallback where
  | wakeTimeoutCallback
  | vendorCallback
  deriving DecidableEq, Repr

/-- A queued timer. -/
structure UserCallbackInfo where
  pCallback : TimedCallback
  userParam : Nat
  deriving DecidableEq, Repr

structure WakeState where
  /-- The queue, by the addresses of its timers. -/
  timers : Nat → Option UserCallbackInfo
  lastWakeTimeoutInfo : Option Nat
  wakelockCount : Nat
  /-- The kernel lock, which does not count. -/
  held : Bool

namespace WakeState

def init : WakeState where
  timers := fun _ => none
  lastWakeTimeoutInfo := none
  wakelockCount := 0
  held := false

def acquireWakeLock (s : WakeState) : WakeState := { s with held := true }

def releaseKernelLock (s : WakeState) : WakeState := { s with held := false }

def internalRequestTimedCallback (s : WakeState) (callback : TimedCallback) (param : Nat)
    (alloc : Option Nat) : WakeState × Option Nat :=
  match alloc with
  | none => (s, none)
  | some pInfo =>
    ({ s with timers := Function.update s.timers pInfo (some ⟨callback, param⟩) }, some pInfo)

/-- `s_last_wake_timeout_info->userParam = (void *)1`, if there is such a timer. -/
def cancelLast (s : WakeState) : WakeState :=
  match s.lastWakeTimeoutInfo with
  | none => s
  | some pInfo =>
    let cancelled := (s.timers pInfo).map fun info => { info with userParam := 1 }
    { s with timers := Function.update s.timers pInfo cancelled }

variable (version : Int)

def grabPartialWakeLock (s : WakeState) (alloc : Option Nat) : WakeState :=
  if version ≥ 13 then
    match s.acquireWakeLock.internalRequestTimedCallback .wakeTimeoutCallback 0 alloc with
    | (s, none) => s.releaseKernelLock
    | (s, some pInfo) =>
      let s := { s with wakelockCount := s.wakelockCount + 1 }
      { s.cancelLast with lastWakeTimeoutInfo := some pInfo }
  else s.acquireWakeLock

def releaseWakeLock (s : WakeState) : WakeState :=
  if version ≥ 13 then
    if s.wakelockCount > 1 then { s with wakelockCount := s.wakelockCount - 1 }
    else ({ s with wakelockCount := 0 }).releaseKernelLock.cancelLast
  else s.releaseKernelLock

def wakeTimeoutCallback (s : WakeState) (param : Nat) : WakeState :=
  if version ≥ 13 then
    if param = 0 then ({ s with wakelockCount := 0 }).releaseKernelLock else s
  else if param = 0 then s.releaseWakeLock version else s

/-- The vendor's functions do nothing with the lock; what they call is a step of its own. -/
def callback (s : WakeState) (info : UserCallbackInfo) : WakeState :=
  match info.pCallback with
  | .wakeTimeoutCallback => s.wakeTimeoutCallback version info.userParam
  | .vendorCallback => s

def userTimerCallback (s : WakeState) (pInfo : Nat) (info : UserCallbackInfo) : WakeState :=
  let s := s.callback version info
  let s := if s.lastWakeTimeoutInfo = some pInfo then { s with lastWakeTimeoutInfo := none } else s
  { s with timers := Function.update s.timers pInfo none }

end WakeState

inductive WakeEvent where
  | grab (alloc : Option Nat)
  | release
  | fire (pInfo : Nat)
  /-- `RIL_requestTimedCallback` of the vendor. -/
  | requestTimedCallback (param : Nat) (alloc : Option Nat)
  deriving DecidableEq, Repr

/-- One step. An allocation gives an address at which no timer is, and the signed counter does not
overflow: the build aborts there. -/
def WakeState.step (version : Int) (s : WakeState) : WakeEvent → Option WakeState
  | .grab alloc =>
    if (∀ pInfo ∈ alloc, s.timers pInfo = none) ∧ s.wakelockCount < 2 ^ 31 - 1 then
      some (s.grabPartialWakeLock version alloc)
    else none
  | .release => some (s.releaseWakeLock version)
  | .fire pInfo => (s.timers pInfo).map fun info => s.userTimerCallback version pInfo info
  | .requestTimedCallback param alloc =>
    if ∀ pInfo ∈ alloc, s.timers pInfo = none then
      some (s.internalRequestTimedCallback .vendorCallback param alloc).1
    else none

namespace WakeState

variable {version : Int}

/-- There is a timer in the queue that releases the lock. -/
def Guarded (s : WakeState) : Prop := ∃ pInfo, s.lastWakeTimeoutInfo = some pInfo ∧
  s.timers pInfo = some ⟨.wakeTimeoutCallback, 0⟩

/-- The lock is held exactly while it is counted, and then a timer guards it. -/
structure Accounted (s : WakeState) : Prop where
  held_iff : s.held = true ↔ 0 < s.wakelockCount
  guarded : s.held = true → s.Guarded

/-- A grab fails to get a timer while the lock is in use. -/
def FailsInUse (s : WakeState) : WakeEvent → Prop
  | .grab none => 0 < s.wakelockCount
  | _ => False

/-- The last timer is in the queue. -/
def LastQueued (s : WakeState) : Prop := ∀ pInfo, s.lastWakeTimeoutInfo = some pInfo →
  ∃ param, s.timers pInfo = some ⟨.wakeTimeoutCallback, param⟩

/-! ## The timers -/

@[simp] theorem cancelLast_lastWakeTimeoutInfo (s : WakeState) :
    s.cancelLast.lastWakeTimeoutInfo = s.lastWakeTimeoutInfo := by
  unfold cancelLast
  split <;> rfl

@[simp] theorem cancelLast_wakelockCount (s : WakeState) :
    s.cancelLast.wakelockCount = s.wakelockCount := by
  unfold cancelLast
  split <;> rfl

@[simp] theorem cancelLast_held (s : WakeState) : s.cancelLast.held = s.held := by
  unfold cancelLast
  split <;> rfl

theorem cancelLast_timers_of_ne {s : WakeState} {pInfo : Nat}
    (h : s.lastWakeTimeoutInfo ≠ some pInfo) : s.cancelLast.timers pInfo = s.timers pInfo := by
  unfold cancelLast
  split
  · rfl
  · next last hlast =>
    have hne : pInfo ≠ last := fun hne => h (hne ▸ hlast)
    exact Function.update_of_ne hne _ _

theorem LastQueued.cancelLast {s : WakeState} (hs : s.LastQueued) : s.cancelLast.LastQueued := by
  intro pInfo h
  rw [cancelLast_lastWakeTimeoutInfo] at h
  obtain ⟨param, hparam⟩ := hs pInfo h
  refine ⟨1, ?_⟩
  simp [WakeState.cancelLast, h, hparam]

/-- A new timer is not the last one. -/
theorem LastQueued.ne {s : WakeState} (hs : s.LastQueued) {pInfo : Nat}
    (hfree : s.timers pInfo = none) : s.lastWakeTimeoutInfo ≠ some pInfo := by
  intro h
  obtain ⟨param, hparam⟩ := hs pInfo h
  rw [hfree] at hparam
  cases hparam

/-- The last timer stays what it is when another timer comes or goes. -/
theorem timers_update_of_ne {s : WakeState} {pInfo last : Nat} (info : Option UserCallbackInfo)
    (hlast : s.lastWakeTimeoutInfo = some last) (hne : s.lastWakeTimeoutInfo ≠ some pInfo) :
    Function.update s.timers pInfo info last = s.timers last := by
  refine Function.update_of_ne (fun h => hne ?_) _ _
  rw [hlast, h]

/-! ## The functions -/

theorem grabPartialWakeLock_none (hv : version ≥ 13) (s : WakeState) :
    s.grabPartialWakeLock version none = { s with held := false } := by
  rw [grabPartialWakeLock, if_pos hv]
  rfl

theorem grabPartialWakeLock_some (hv : version ≥ 13) (s : WakeState) {pInfo : Nat}
    (hne : s.lastWakeTimeoutInfo ≠ some pInfo) :
    (s.grabPartialWakeLock version (some pInfo)).held = true ∧
      (s.grabPartialWakeLock version (some pInfo)).wakelockCount = s.wakelockCount + 1 ∧
      (s.grabPartialWakeLock version (some pInfo)).lastWakeTimeoutInfo = some pInfo ∧
      (s.grabPartialWakeLock version (some pInfo)).timers pInfo =
        some ⟨.wakeTimeoutCallback, 0⟩ := by
  rw [grabPartialWakeLock, if_pos hv]
  refine ⟨?_, ?_, rfl, ?_⟩
  · simp [internalRequestTimedCallback, acquireWakeLock]
  · simp [internalRequestTimedCallback, acquireWakeLock]
  · let queued := (s.acquireWakeLock.internalRequestTimedCallback .wakeTimeoutCallback 0
      (some pInfo)).1
    have htimers := cancelLast_timers_of_ne
      (s := { queued with wakelockCount := s.wakelockCount + 1 }) hne
    exact htimers.trans (Function.update_self _ _ _)

theorem releaseWakeLock_counted (hv : version ≥ 13) {s : WakeState} (h : s.wakelockCount > 1) :
    s.releaseWakeLock version = { s with wakelockCount := s.wakelockCount - 1 } := by
  rw [releaseWakeLock, if_pos hv, if_pos h]

theorem releaseWakeLock_last (hv : version ≥ 13) {s : WakeState} (h : ¬ s.wakelockCount > 1) :
    s.releaseWakeLock version = ({ s with wakelockCount := 0, held := false }).cancelLast := by
  rw [releaseWakeLock, if_pos hv, if_neg h]
  rfl

/-- A timer that fires releases the lock, or does nothing with it. -/
theorem callback_cases (hv : version ≥ 13) (s : WakeState) (info : UserCallbackInfo) :
    s.callback version info = { s with wakelockCount := 0, held := false } ∨
      (s.callback version info = s ∧ info ≠ ⟨.wakeTimeoutCallback, 0⟩) := by
  obtain ⟨callback, param⟩ := info
  cases callback with
  | vendorCallback => exact .inr ⟨rfl, by simp⟩
  | wakeTimeoutCallback =>
    simp only [WakeState.callback, wakeTimeoutCallback, if_pos hv]
    by_cases hparam : param = 0
    · rw [if_pos hparam]
      exact .inl rfl
    · rw [if_neg hparam]
      exact .inr ⟨rfl, by simp [hparam]⟩

theorem callback_frame (hv : version ≥ 13) (s : WakeState) (info : UserCallbackInfo) :
    (s.callback version info).timers = s.timers ∧
      (s.callback version info).lastWakeTimeoutInfo = s.lastWakeTimeoutInfo := by
  rcases callback_cases hv s info with h | ⟨h, _⟩ <;> rw [h] <;> exact ⟨rfl, rfl⟩

theorem userTimerCallback_frame (hv : version ≥ 13) (s : WakeState) (pInfo : Nat)
    (info : UserCallbackInfo) :
    (s.userTimerCallback version pInfo info).held = (s.callback version info).held ∧
      (s.userTimerCallback version pInfo info).wakelockCount =
        (s.callback version info).wakelockCount ∧
      (s.userTimerCallback version pInfo info).timers = Function.update s.timers pInfo none ∧
      (s.userTimerCallback version pInfo info).lastWakeTimeoutInfo =
        if s.lastWakeTimeoutInfo = some pInfo then none else s.lastWakeTimeoutInfo := by
  obtain ⟨htimers, hlast⟩ := callback_frame hv s info
  simp only [userTimerCallback, hlast]
  split <;> simp [htimers, hlast]

/-! ## The invariant -/

theorem LastQueued.step (hv : version ≥ 13) {s s' : WakeState} {ev : WakeEvent}
    (hs : s.LastQueued) (h : s.step version ev = some s') : s'.LastQueued := by
  cases ev with
  | grab alloc =>
    simp only [WakeState.step, Option.ite_none_right_eq_some, Option.some.injEq] at h
    obtain ⟨⟨hfree, _⟩, rfl⟩ := h
    cases alloc with
    | none =>
      rw [grabPartialWakeLock_none hv]
      exact hs
    | some pInfo =>
      obtain ⟨_, _, hlast, htimer⟩ := grabPartialWakeLock_some hv s (hs.ne (hfree pInfo rfl))
      intro last h
      rw [hlast] at h
      cases h
      exact ⟨0, htimer⟩
  | release =>
    cases h
    by_cases hcount : s.wakelockCount > 1
    · rw [releaseWakeLock_counted hv hcount]
      exact hs
    · rw [releaseWakeLock_last hv hcount]
      exact LastQueued.cancelLast hs
  | fire pInfo =>
    simp only [WakeState.step, Option.map_eq_some_iff] at h
    obtain ⟨info, _, rfl⟩ := h
    obtain ⟨_, _, htimers, hlast⟩ := userTimerCallback_frame hv s pInfo info
    intro last h
    rw [hlast] at h
    split at h
    · cases h
    · next hne =>
      obtain ⟨param, hparam⟩ := hs last h
      rw [htimers]
      exact ⟨param, (timers_update_of_ne none h hne).trans hparam⟩
  | requestTimedCallback param alloc =>
    simp only [WakeState.step, Option.ite_none_right_eq_some, Option.some.injEq] at h
    obtain ⟨hfree, rfl⟩ := h
    cases alloc with
    | none => exact hs
    | some pInfo =>
      intro last h
      have hlast : s.lastWakeTimeoutInfo = some last := h
      obtain ⟨p, hp⟩ := hs last hlast
      exact ⟨p, (timers_update_of_ne _ hlast (hs.ne (hfree pInfo rfl))).trans hp⟩

theorem Accounted.of_released {s : WakeState} (hheld : s.held = false)
    (hcount : s.wakelockCount = 0) : s.Accounted where
  held_iff := by simp [hheld, hcount]
  guarded := by simp [hheld]

theorem Accounted.fire (hv : version ≥ 13) {s : WakeState} (hs : s.Accounted) {pInfo : Nat}
    {info : UserCallbackInfo} (hinfo : s.timers pInfo = some info) :
    (s.userTimerCallback version pInfo info).Accounted := by
  obtain ⟨hheld, hcount, htimers, hlast⟩ := userTimerCallback_frame hv s pInfo info
  rcases callback_cases hv s info with h | ⟨h, hother⟩ <;> rw [h] at hheld hcount
  · exact .of_released hheld hcount
  · refine ⟨by rw [hheld, hcount]; exact hs.held_iff, fun h => ?_⟩
    rw [hheld] at h
    obtain ⟨last, hlast', htimer⟩ := hs.guarded h
    have hne : s.lastWakeTimeoutInfo ≠ some pInfo := by
      intro heq
      rw [hlast'] at heq
      cases heq
      rw [htimer] at hinfo
      exact hother (Option.some.inj hinfo).symm
    refine ⟨last, by rw [hlast, if_neg hne, hlast'], ?_⟩
    rw [htimers, timers_update_of_ne none hlast' hne, htimer]

theorem Accounted.step (hv : version ≥ 13) {s s' : WakeState} {ev : WakeEvent}
    (hs : s.Accounted) (hlast : s.LastQueued) (h : s.step version ev = some s') :
    s'.Accounted ↔ ¬ s.FailsInUse ev := by
  cases ev with
  | grab alloc =>
    simp only [WakeState.step, Option.ite_none_right_eq_some, Option.some.injEq] at h
    obtain ⟨⟨hfree, _⟩, rfl⟩ := h
    cases alloc with
    | none =>
      rw [grabPartialWakeLock_none hv]
      constructor
      · intro ha hcount
        have hheld := ha.held_iff.mpr hcount
        cases hheld
      · intro hcount
        exact .of_released rfl (Nat.eq_zero_of_not_pos hcount)
    | some pInfo =>
      obtain ⟨hheld, hcount, hlast', htimer⟩ :=
        grabPartialWakeLock_some hv s (hlast.ne (hfree pInfo rfl))
      refine iff_of_true ⟨?_, fun _ => ⟨pInfo, hlast', htimer⟩⟩ not_false
      simp [hheld, hcount]
  | release =>
    refine iff_of_true ?_ not_false
    cases h
    by_cases hcount : s.wakelockCount > 1
    · rw [releaseWakeLock_counted hv hcount]
      have hheld := hs.held_iff.mpr (by omega)
      exact ⟨iff_of_true hheld (Nat.sub_pos_of_lt hcount), hs.guarded⟩
    · rw [releaseWakeLock_last hv hcount]
      exact .of_released (cancelLast_held _) (cancelLast_wakelockCount _)
  | fire pInfo =>
    refine iff_of_true ?_ not_false
    simp only [WakeState.step, Option.map_eq_some_iff] at h
    obtain ⟨info, hinfo, rfl⟩ := h
    exact hs.fire hv hinfo
  | requestTimedCallback param alloc =>
    refine iff_of_true ?_ not_false
    simp only [WakeState.step, Option.ite_none_right_eq_some, Option.some.injEq] at h
    obtain ⟨hfree, rfl⟩ := h
    cases alloc with
    | none => exact hs
    | some pInfo =>
      refine ⟨hs.held_iff, fun h => ?_⟩
      obtain ⟨last, hlast', htimer⟩ := hs.guarded h
      refine ⟨last, hlast', ?_⟩
      exact (timers_update_of_ne _ hlast' (hlast.ne (hfree pInfo rfl))).trans htimer

theorem accounted_init : init.Accounted := .of_released rfl rfl

theorem lastQueued_init : init.LastQueued := by
  intro pInfo h
  cases h

/-- The lock, its count and its timer agree exactly in the runs in which no grab fails to get a
timer while the lock is in use. -/
theorem accounted_iff (version : Int) (hv : version ≥ 13) (es : List WakeEvent) :
    Always Accounted (WakeState.step version) init es ↔
      AllMeet (fun s ev => ¬ s.FailsInUse ev) (WakeState.step version) init es := by
  refine always_iff_allMeet (fun s => s.Accounted ∧ s.LastQueued) ?_ ?_
    ⟨accounted_init, lastQueued_init⟩
  · intro s ev s' ⟨hs, hlast⟩ hcond h
    exact ⟨(hs.step hv hlast h).mpr hcond, hlast.step hv h⟩
  · intro s ev s' ⟨hs, hlast⟩ h
    exact hs.step hv hlast h

theorem accounted_two_users : Always Accounted (WakeState.step 13) init
    [.grab (some 8), .grab (some 16), .fire 8, .release, .fire 16] := by
  refine (accounted_iff 13 (by decide) _).mpr ?_
  exact .cons rfl not_false (.cons rfl not_false (.cons rfl not_false (.cons rfl not_false
    (.cons rfl not_false trivial))))

/-- The second user gets no timer, and takes the lock away from the first. -/
theorem failed_grab_releases : ¬ ∀ version : Int, version ≥ 13 → ∀ es : List WakeEvent,
    Always Accounted (WakeState.step version) init es := by
  intro h
  have hfirst := h 13 (by decide) [.grab (some 1), .grab none] _ rfl
  have hsecond := hfirst.2 _ rfl
  have hheld := hsecond.1.held_iff.mpr (by decide)
  revert hheld
  decide

end WakeState
end Ril
end Huashan
