import Huashan.Run

/-!
# Huashan.Ril.Callbacks

The callback objects of a slot. A delivery whose HIDL call fails resets them in
`checkReturnStatus`, which gives up the slot's lock in between and compares a counter to see
whether a client connected meanwhile. What a thread does between two operations on the lock is one
step; the operations are steps of their own.

`sendErrorResponse` makes its call without the lock, so that `checkReturnStatus` unlocks what the
thread does not hold. POSIX leaves open what that does: the event says it. What keeps a connection
out of such a call is not the lock: `registerService` configures one HIDL thread, which runs the
dispatch functions and `setResponseFunctions` one after the other.
-/

namespace Huashan
namespace Ril

/-! ## The lock -/

structure RwLock where
  writer : Option Nat
  /-- The threads that hold it for reading, each as often as it does. -/
  readers : List Nat
  deriving DecidableEq, Repr

namespace RwLock

def rdlock (l : RwLock) (t : Nat) : Option RwLock :=
  if l.writer = none then some { l with readers := t :: l.readers } else none

def wrlock (l : RwLock) (t : Nat) : Option RwLock :=
  if l.writer = none ∧ l.readers = [] then some { l with writer := some t } else none

/-- `undefined` is the result when the thread does not hold the lock. -/
def unlock (l : RwLock) (t : Nat) (undefined : RwLock) : RwLock :=
  if l.writer = some t then { l with writer := none }
  else if t ∈ l.readers then { l with readers := l.readers.erase t }
  else undefined

end RwLock

/-! ## The callback objects -/

inductive Callback where
  | mRadioResponse
  | mRadioIndication
  | mRadioResponseV1_1
  | mRadioIndicationV1_1
  | mOemHookResponse
  | mOemHookIndication
  deriving DecidableEq, Repr

def Callback.isRadioService : Callback → Bool
  | .mOemHookResponse | .mOemHookIndication => false
  | _ => true

/-- Who starts a delivery. -/
inductive Starter where
  | onRequestComplete
  | onRequestAck
  | onUnsolicitedResponse
  /-- `RIL_onUnsolicitedResponse` with `RIL_UNSOL_NITZ_TIME_RECEIVED`. -/
  | onNitzTimeReceived
  | sendErrorResponse
  deriving DecidableEq, Repr

structure Delivery where
  starter : Starter
  callback : Callback
  deriving DecidableEq, Repr

/-- What a thread remembers of a failed call: the service, its counter, and how many calls of
`setResponseFunctions` there were when the callback was read. -/
structure Failure where
  isRadioService : Bool
  counter : Nat
  seen : Nat
  deriving DecidableEq, Repr

/-- Where a thread is. -/
inductive Pc where
  | idle
  /-- In a response or indication function, before its HIDL call. -/
  | calling (d : Delivery)
  /-- In `checkReturnStatus`, with the counter noted. -/
  | failed (d : Delivery) (f : Failure)
  | released (d : Delivery) (f : Failure)
  | exclusive (d : Delivery) (f : Failure)
  | compared (d : Delivery)
  | reacquiring (d : Delivery)
  /-- In `setResponseFunctions`, with the write lock. -/
  | installing
  | installed
  deriving DecidableEq, Repr

/-- The failure a thread has still to deal with. -/
def Pc.failure : Pc → Option Failure
  | .failed _ f | .released _ f | .exclusive _ f => some f
  | _ => none

/-- A reset: what the failed call had seen, and the calls of `setResponseFunctions` that had
installed the objects it erased. -/
structure Reset where
  seen : Nat
  erased : List Nat
  deriving DecidableEq, Repr

/-- An object is the number of the call of `setResponseFunctions` that installed it, and `none` is
`NULL`. -/
structure CallbackState where
  lock : RwLock
  objects : Callback → Option Nat
  mCounterRadio : Nat
  mCounterOemHook : Nat
  threads : Nat → Pc
  installs : Nat
  resets : List Reset

namespace CallbackState

def init : CallbackState where
  lock := ⟨none, []⟩
  objects := fun _ => none
  mCounterRadio := 0
  mCounterOemHook := 0
  threads := fun _ => .idle
  installs := 0
  resets := []

def counter (s : CallbackState) (isRadioService : Bool) : Nat :=
  if isRadioService then s.mCounterRadio else s.mCounterOemHook

/-- The increment of a counter; the build aborts when it overflows. -/
def countUp (s : CallbackState) (isRadioService : Bool) : Option CallbackState :=
  if s.counter isRadioService < 2 ^ 31 - 1 then
    some (if isRadioService then { s with mCounterRadio := s.mCounterRadio + 1 }
      else { s with mCounterOemHook := s.mCounterOemHook + 1 })
  else none

def goto (s : CallbackState) (t : Nat) (pc : Pc) : CallbackState :=
  { s with threads := Function.update s.threads t pc }

/-- The objects a client gives: `none` for `NULL`, and otherwise whether the object casts to
version 1.1. -/
def given (n : Nat) (response indication : Option Bool) : Callback → Option Nat
  | .mRadioResponse | .mOemHookResponse => response.map fun _ => n
  | .mRadioIndication | .mOemHookIndication => indication.map fun _ => n
  | .mRadioResponseV1_1 | .mRadioIndicationV1_1 =>
    if response = some true ∧ indication = some true then some n else none

def setObjects (s : CallbackState) (isRadioService : Bool) (objects : Callback → Option Nat) :
    CallbackState where
  lock := s.lock
  objects := fun c => if c.isRadioService = isRadioService then objects c else s.objects c
  mCounterRadio := s.mCounterRadio
  mCounterOemHook := s.mCounterOemHook
  threads := s.threads
  installs := s.installs
  resets := s.resets

/-- `RadioImpl::setResponseFunctions` and `OemHookImpl::setResponseFunctions` with the write
lock. -/
def setResponseFunctions (s : CallbackState) (isRadioService : Bool)
    (response indication : Option Bool) : Option CallbackState :=
  let s := { s with installs := s.installs + 1 }
  (s.setObjects isRadioService (given s.installs response indication)).countUp isRadioService

/-- The objects of a service. -/
def callbacks (s : CallbackState) (isRadioService : Bool) : List Nat :=
  let all : List Callback := [.mRadioResponse, .mRadioIndication, .mRadioResponseV1_1,
    .mRadioIndicationV1_1, .mOemHookResponse, .mOemHookIndication]
  (all.filter fun c => c.isRadioService == isRadioService).filterMap s.objects

/-- `checkReturnStatus` with the write lock. -/
def resetCallbacks (s : CallbackState) (f : Failure) : Option CallbackState :=
  if f.counter = s.counter f.isRadioService then
    let s := { s with resets := ⟨f.seen, s.callbacks f.isRadioService⟩ :: s.resets }
    (s.setObjects f.isRadioService fun _ => none).countUp f.isRadioService
  else some s

/-- The lock a starter takes before a delivery. -/
def acquire (l : RwLock) (t : Nat) : Starter → Option RwLock
  | .onRequestComplete | .onRequestAck | .onUnsolicitedResponse => l.rdlock t
  | .onNitzTimeReceived => l.wrlock t
  | .sendErrorResponse => some l

end CallbackState

inductive CallbackEvent where
  | deliver (t : Nat) (d : Delivery)
  /-- The HIDL call, with the outcome `isOk`. -/
  | call (t : Nat) (isOk : Bool)
  /-- The end of a delivery. -/
  | leave (t : Nat) (undefined : RwLock)
  | unlock (t : Nat) (undefined : RwLock)
  | wrlock (t : Nat)
  | compare (t : Nat)
  | rdlock (t : Nat)
  | connect (t : Nat)
  | setResponseFunctions (t : Nat) (isRadioService : Bool) (response indication : Option Bool)
  deriving DecidableEq, Repr

namespace CallbackState

def step (s : CallbackState) : CallbackEvent → Option CallbackState
  | .deliver t d =>
    match s.threads t with
    | .idle => do
      let lock ← acquire s.lock t d.starter
      return { s with lock := lock }.goto t (.calling d)
    | _ => none
  | .call t isOk =>
    match s.threads t with
    | .calling d =>
      if s.objects d.callback = none ∨ isOk then some s
      else
        let isRadioService := d.callback.isRadioService
        some (s.goto t (.failed d ⟨isRadioService, s.counter isRadioService, s.installs⟩))
    | _ => none
  | .leave t undefined =>
    match s.threads t with
    | .calling d =>
      if d.starter = .sendErrorResponse then some (s.goto t .idle)
      else some ({ s with lock := s.lock.unlock t undefined }.goto t .idle)
    | _ => none
  | .unlock t undefined =>
    let s' := { s with lock := s.lock.unlock t undefined }
    match s.threads t with
    | .failed d f => some (s'.goto t (.released d f))
    | .compared d => some (s'.goto t (.reacquiring d))
    | .installed => some (s'.goto t .idle)
    | _ => none
  | .wrlock t =>
    match s.threads t with
    | .released d f => do
      let lock ← s.lock.wrlock t
      return { s with lock := lock }.goto t (.exclusive d f)
    | _ => none
  | .compare t =>
    match s.threads t with
    | .exclusive d f => do
      let s ← s.resetCallbacks f
      return s.goto t (.compared d)
    | _ => none
  | .rdlock t =>
    match s.threads t with
    | .reacquiring d => do
      let lock ← s.lock.rdlock t
      return { s with lock := lock }.goto t (.calling d)
    | _ => none
  | .connect t =>
    match s.threads t with
    | .idle => do
      let lock ← s.lock.wrlock t
      return { s with lock := lock }.goto t .installing
    | _ => none
  | .setResponseFunctions t isRadioService response indication =>
    match s.threads t with
    | .installing => do
      let s ← s.setResponseFunctions isRadioService response indication
      return s.goto t .installed
    | _ => none

/-! ## Resets -/

/-- No reset erased an object that was installed after its failing call had read its own. -/
def ErasesSeen (s : CallbackState) : Prop := ∀ r ∈ s.resets, ∀ n ∈ r.erased, n ≤ r.seen

/-- While the counter is what the failed call noted, all objects of the service are older. -/
structure Noted (s : CallbackState) (f : Failure) : Prop where
  counter_le : f.counter ≤ s.counter f.isRadioService
  seen : f.counter = s.counter f.isRadioService → ∀ c n, c.isRadioService = f.isRadioService →
    s.objects c = some n → n ≤ f.seen

structure CountsInstalls (s : CallbackState) : Prop where
  noted : ∀ t f, (s.threads t).failure = some f → s.Noted f
  installed : ∀ c n, s.objects c = some n → n ≤ s.installs
  erasesSeen : s.ErasesSeen

theorem countsInstalls_init : init.CountsInstalls where
  noted := fun t f h => by cases h
  installed := fun c n h => by cases h
  erasesSeen := fun r h => by cases h

theorem CountsInstalls.goto {s : CallbackState} (hs : s.CountsInstalls) (t : Nat) {pc : Pc}
    (hpc : ∀ f, pc.failure = some f → s.Noted f) : (s.goto t pc).CountsInstalls where
  noted := by
    intro t' f h
    by_cases ht : t' = t
    · subst ht
      simp only [CallbackState.goto, Function.update_self] at h
      exact ⟨(hpc f h).counter_le, (hpc f h).seen⟩
    · simp only [CallbackState.goto, Function.update_of_ne ht] at h
      exact ⟨(hs.noted t' f h).counter_le, (hs.noted t' f h).seen⟩
  installed := hs.installed
  erasesSeen := hs.erasesSeen

/-- The lock decides who moves, and nothing else. -/
theorem CountsInstalls.lock {s : CallbackState} (hs : s.CountsInstalls) (l : RwLock) :
    CountsInstalls { s with lock := l } where
  noted := fun t f h => ⟨(hs.noted t f h).counter_le, (hs.noted t f h).seen⟩
  installed := hs.installed
  erasesSeen := hs.erasesSeen

theorem countUp_cases {s s' : CallbackState} {isRadioService : Bool}
    (h : s.countUp isRadioService = some s') :
    s' = { s with mCounterRadio := s'.mCounterRadio, mCounterOemHook := s'.mCounterOemHook } ∧
      ∀ b, s'.counter b = if b = isRadioService then s.counter b + 1 else s.counter b := by
  simp only [countUp, Option.ite_none_right_eq_some, Option.some.injEq] at h
  obtain ⟨_, rfl⟩ := h
  cases isRadioService <;> refine ⟨rfl, fun b => ?_⟩ <;> cases b <;> rfl

/-- When the objects of one service change and its counter goes up, what was noted of a failure
stays true. -/
theorem Noted.countUp {s s' : CallbackState} {isRadioService : Bool} {f : Failure}
    {objects : Callback → Option Nat} (hf : s.Noted f)
    (h : (s.setObjects isRadioService objects).countUp isRadioService = some s') : s'.Noted f := by
  obtain ⟨hs', hcount⟩ := countUp_cases h
  have hle := hf.counter_le
  have hup : s'.counter f.isRadioService = if f.isRadioService = isRadioService then
      s.counter f.isRadioService + 1 else s.counter f.isRadioService := hcount f.isRadioService
  by_cases hservice : f.isRadioService = isRadioService
  · rw [if_pos hservice] at hup
    exact ⟨by omega, fun heq => by omega⟩
  · rw [if_neg hservice] at hup
    refine ⟨by omega, fun heq c n hc hn => ?_⟩
    have hother : ¬ c.isRadioService = isRadioService := fun h => hservice (hc.symm.trans h)
    have hsame : s.objects c = some n := by
      rw [hs'] at hn
      simpa [setObjects, if_neg hother] using hn
    exact hf.seen (by omega) c n hc hsame

theorem Noted.of_eq {s t : CallbackState} {f : Failure} (hf : s.Noted f)
    (hobjects : t.objects = s.objects) (hcounter : ∀ b, t.counter b = s.counter b) : t.Noted f := by
  constructor
  · rw [hcounter]
    exact hf.counter_le
  · rw [hcounter, hobjects]
    exact hf.seen

theorem given_eq_some {n m : Nat} {response indication : Option Bool} {c : Callback}
    (h : given n response indication c = some m) : m = n := by
  cases c <;> simp [given] at h <;> simp [h]

theorem CountsInstalls.setResponseFunctions {s s' : CallbackState} (hs : s.CountsInstalls)
    {isRadioService : Bool} {response indication : Option Bool}
    (h : s.setResponseFunctions isRadioService response indication = some s') :
    s'.CountsInstalls := by
  obtain ⟨hs', _⟩ := countUp_cases h
  constructor
  · intro t f hf
    rw [hs'] at hf
    have hnoted : Noted { s with installs := s.installs + 1 } f :=
      (hs.noted t f hf).of_eq rfl fun _ => rfl
    exact hnoted.countUp h
  · intro c n hn
    rw [hs'] at hn ⊢
    simp only [setObjects] at hn ⊢
    split at hn
    · exact Nat.le_of_eq (given_eq_some hn)
    · exact Nat.le_succ_of_le (hs.installed c n hn)
  · rw [hs']
    exact hs.erasesSeen

theorem mem_callbacks {s : CallbackState} {isRadioService : Bool} {n : Nat}
    (h : n ∈ s.callbacks isRadioService) :
    ∃ c, c.isRadioService = isRadioService ∧ s.objects c = some n := by
  obtain ⟨c, hc, hn⟩ := List.mem_filterMap.mp h
  exact ⟨c, beq_iff_eq.mp (List.mem_filter.mp hc).2, hn⟩

theorem CountsInstalls.resetCallbacks {s s' : CallbackState} (hs : s.CountsInstalls) {f : Failure}
    (hf : s.Noted f) (h : s.resetCallbacks f = some s') : s'.CountsInstalls := by
  unfold CallbackState.resetCallbacks at h
  split at h
  · next heq =>
    obtain ⟨hs', _⟩ := countUp_cases h
    constructor
    · intro t g hg
      rw [hs'] at hg
      have hnoted : Noted
          { s with resets := ⟨f.seen, s.callbacks f.isRadioService⟩ :: s.resets } g :=
        (hs.noted t g hg).of_eq rfl fun _ => rfl
      exact hnoted.countUp h
    · intro c n hn
      rw [hs'] at hn ⊢
      simp only [setObjects] at hn ⊢
      split at hn
      · cases hn
      · exact hs.installed c n hn
    · rw [hs']
      intro r hr n hn
      rcases List.mem_cons.mp hr with rfl | hr
      · obtain ⟨c, hc, hobject⟩ := mem_callbacks hn
        exact hf.seen heq c n hc hobject
      · exact hs.erasesSeen r hr n hn
  · cases h
    exact hs

theorem CountsInstalls.step {s s' : CallbackState} (hs : s.CountsInstalls) {ev : CallbackEvent}
    (h : s.step ev = some s') : s'.CountsInstalls := by
  cases ev with
  | deliver t d =>
    simp only [CallbackState.step] at h
    split at h
    · obtain ⟨l, _, h⟩ := Option.bind_eq_some_iff.mp h
      cases h
      exact (hs.lock l).goto t fun f hf => by cases hf
    · cases h
  | call t isOk =>
    simp only [CallbackState.step] at h
    split at h
    · split at h
      · cases h
        exact hs
      · cases h
        refine hs.goto t fun f hf => ?_
        cases hf
        exact ⟨Nat.le_refl _, fun _ c n _ hn => hs.installed c n hn⟩
    · cases h
  | leave t undefined =>
    simp only [CallbackState.step] at h
    split at h
    · split at h
      · cases h
        exact hs.goto t fun f hf => by cases hf
      · cases h
        exact (hs.lock _).goto t fun f hf => by cases hf
    · cases h
  | unlock t undefined =>
    simp only [CallbackState.step] at h
    split at h
    · next d f hpc =>
      cases h
      refine (hs.lock _).goto t fun g hg => ?_
      cases hg
      exact (hs.lock _).noted t f (by simp [hpc, Pc.failure])
    · cases h
      exact (hs.lock _).goto t fun f hf => by cases hf
    · cases h
      exact (hs.lock _).goto t fun f hf => by cases hf
    · cases h
  | wrlock t =>
    simp only [CallbackState.step] at h
    split at h
    · next d f hpc =>
      obtain ⟨l, _, h⟩ := Option.bind_eq_some_iff.mp h
      cases h
      refine (hs.lock l).goto t fun g hg => ?_
      cases hg
      exact (hs.lock l).noted t f (by simp [hpc, Pc.failure])
    · cases h
  | compare t =>
    simp only [CallbackState.step] at h
    split at h
    · next d f hpc =>
      obtain ⟨u, hu, h⟩ := Option.bind_eq_some_iff.mp h
      cases h
      have hreset := hs.resetCallbacks (hs.noted t f (by simp [hpc, Pc.failure])) hu
      exact hreset.goto t fun g hg => by cases hg
    · cases h
  | rdlock t =>
    simp only [CallbackState.step] at h
    split at h
    · obtain ⟨l, _, h⟩ := Option.bind_eq_some_iff.mp h
      cases h
      exact (hs.lock l).goto t fun f hf => by cases hf
    · cases h
  | connect t =>
    simp only [CallbackState.step] at h
    split at h
    · obtain ⟨l, _, h⟩ := Option.bind_eq_some_iff.mp h
      cases h
      exact (hs.lock l).goto t fun f hf => by cases hf
    · cases h
  | setResponseFunctions t isRadioService response indication =>
    simp only [CallbackState.step] at h
    split at h
    · obtain ⟨u, hu, h⟩ := Option.bind_eq_some_iff.mp h
      cases h
      exact (hs.setResponseFunctions hu).goto t fun f hf => by cases hf
    · cases h

/-- Whatever the order of connections and failing deliveries, a reset erases no object that came
after the call that failed. -/
theorem erasesSeen_always (es : List CallbackEvent) :
    Always ErasesSeen CallbackState.step init es :=
  always_of_invariant CountsInstalls (fun _ _ _ hs h => hs.step h) (fun _ hs => hs.erasesSeen)
    countsInstalls_init es

/-- The client dies, an error response fails without the lock, and its reset erases the objects of
the first connection. -/
example : (([.connect 0, .setResponseFunctions 0 true (some true) (some true), .unlock 0 ⟨none, []⟩,
    .deliver 1 ⟨.sendErrorResponse, .mRadioResponse⟩, .call 1 false, .unlock 1 ⟨none, []⟩,
    .wrlock 1, .compare 1] : List CallbackEvent).foldlM CallbackState.step init).map resets =
    some [⟨1, [1, 1, 1, 1]⟩] := rfl

end CallbackState
end Ril
end Huashan
