import Huashan.RilEvent.Timers
import Huashan.Run

/-!
# Huashan.RilEvent.Loop

The thread of `ril_event_loop`, and the requests for timed callbacks of all threads. Each function
that holds the mutex is one step, and so are `select`, a turn of `firePending`, and the write to the
pipe that wakes the loop.

A request has a number and the time it is for, which are not in the `UserCallbackInfo`.
-/

namespace Huashan
namespace RilEvent

/-! ## The next timeout -/

def timersub (a b : Timeval) : Timeval :=
  let sec := a.tvSec - b.tvSec
  let usec := a.tvUsec - b.tvUsec
  if usec < 0 then ⟨sec - 1, usec + 1000000⟩ else ⟨sec, usec⟩

namespace State

variable {β : Type} [DecidableEq β]

/-- No time is the return value -1. -/
def calcNextTimeout (s : State β) (now : Timeval) : Option (Option Timeval) := do
  let tev ← s.links.next .timerList
  if tev = .timerList then return none
  else if timercmp now (s.timeout tev) then return some (timersub (s.timeout tev) now)
  else return some ⟨0, 0⟩

end State

/-! ## The process -/

/-- The events that the process has: `s_wakeupfd_event`, and the one in each `UserCallbackInfo`. -/
inductive Source where
  | wakeupfd
  | user (pInfo : Nat)
  deriving DecidableEq

/-- `κ` are the callbacks with their parameters. -/
structure Request (κ : Type) where
  id : Nat
  callback : κ
  time : Timeval

/-- Where the thread is. -/
inductive Phase where
  | starting
  /-- At the top of the loop. -/
  | top
  | selecting (rfds : Finset Int) (nfds : Int) (ptv : Option Timeval) (now : Timeval)
  /-- `select` has returned `n`. -/
  | selected (rfds : Finset Int) (n : Int)
  /-- After `processTimeouts`. -/
  | expired (rfds : Finset Int) (n : Int)
  /-- After `processReadReadies`. -/
  | read
  /-- `ev` in `firePending`. -/
  | firing (ev : Node Source)
  | calling (ev : Source) (next : Node Source)
  | ended
  deriving DecidableEq

def Phase.isCallback : Phase → Bool
  | .calling (.user _) _ => true
  | _ => false

def Phase.isSelected : Phase → Bool
  | .selected .. => true
  | _ => false

def Phase.isExpired : Phase → Bool
  | .expired .. => true
  | _ => false

def Phase.isFiring : Phase → Bool
  | .firing _ => true
  | _ => false

def Phase.isCalling : Phase → Bool
  | .calling .. => true
  | _ => false

structure Process (κ : Type) where
  state : State Source
  /-- What the addresses hold that have been allocated. -/
  infos : Nat → Option (Request κ)
  sFdWakeupRead : Option Int
  /-- The number of bytes in the pipe. -/
  pipe : Nat
  /-- The number of threads that have added a timer and have not yet written. -/
  triggering : Nat
  phase : Phase
  clock : Timeval
  requests : List (Request κ)
  calls : List (Request κ × Timeval)
  /-- When `processTimeouts` was called last. -/
  checked : Timeval

inductive Return where
  | interrupted
  | error
  | count

inductive Event (κ : Type) where
  /-- `internalRequestTimedCallback`, with the result of `calloc`. -/
  | request (pInfo : Option Nat) (callback : κ) (relativeTime : Option Timeval) (now : Timeval)
      (inEventLoop : Bool)
  | triggerEvLoop
  /-- The rest of `eventLoop` up to the loop, with the end of the pipe to read from. -/
  | eventLoop (fd : Option Int)
  | select (now : Timeval)
  | selectReturns (result : Return) (now : Timeval)
  | processTimeouts (now : Timeval)
  | processReadReadies
  | firePending
  /-- A turn of the loop of `firePending`. -/
  | fire
  | callbackReturns

/-- Neither negative nor with more than a second's microseconds. -/
def Timeval.Valid (t : Timeval) : Prop := 0 ≤ t.tvSec ∧ 0 ≤ t.tvUsec ∧ t.tvUsec < 1000000

instance (t : Timeval) : Decidable t.Valid := inferInstanceAs (Decidable (_ ∧ _ ∧ _))

namespace Process

variable {κ : Type}

def new (s : State Source) (clock : Timeval) : Process κ where
  state := State.rilEventInit { s with nfds := 0 }
  infos := fun _ => none
  sFdWakeupRead := none
  pipe := 0
  triggering := 0
  phase := .starting
  clock := clock
  requests := []
  calls := []
  checked := clock

variable (w : Process κ)

/-- More than there are timers. -/
def fuel : Nat := w.requests.length + 1

def readable (fd : Int) : Bool := decide (w.sFdWakeupRead = some fd) && w.pipe != 0

/-- The ready ones of the descriptors that `select` is given. -/
def ready (rfds : Finset Int) (nfds : Int) : Finset Int :=
  rfds.filter fun fd => fd < nfds ∧ w.readable fd = true

/-- The time that `select` was given has passed. -/
def timedOut (ptv : Option Timeval) (start now : Timeval) : Bool :=
  match ptv with
  | none => false
  | some tv => decide (timeradd start tv ≤ now)

/-- `select` can return: with a number, when a descriptor is ready or the time is over. -/
def canReturn (result : Return) (now : Timeval) : Bool :=
  match w.phase with
  | .selecting rfds nfds ptv start =>
    match result with
    | .count => w.ready rfds nfds != ∅ || timedOut ptv start now
    | _ => true
  | _ => false

/-- `calloc` returns memory that is not in use, and the clock does not go back. -/
def Allowed : Event κ → Prop
  | .request pInfo _ relativeTime now inEventLoop =>
    (∀ p ∈ pInfo, (w.infos p).isNone = true) ∧ (∀ t ∈ relativeTime, t.Valid) ∧ now.Valid ∧
      w.clock ≤ now ∧ (inEventLoop = true → w.phase.isCallback = true)
  | .triggerEvLoop => 0 < w.triggering
  | .eventLoop fd => w.phase = .starting ∧ ∀ n ∈ fd, (0 : Int) ≤ n
  | .select now => w.phase = .top ∧ now.Valid ∧ w.clock ≤ now
  | .selectReturns result now => w.clock ≤ now ∧ w.canReturn result now = true
  | .processTimeouts now => w.clock ≤ now ∧ w.phase.isSelected = true
  | .processReadReadies => w.phase.isExpired = true
  | .firePending => w.phase = .read
  | .fire => w.phase.isFiring = true
  | .callbackReturns => w.phase.isCalling = true

instance (e : Event κ) : Decidable (w.Allowed e) :=
  match e with
  | .request .. => inferInstanceAs (Decidable (_ ∧ _ ∧ _ ∧ _ ∧ (_ → _)))
  | .triggerEvLoop => inferInstanceAs (Decidable (_ < _))
  | .eventLoop _ => inferInstanceAs (Decidable (_ ∧ _))
  | .select _ => inferInstanceAs (Decidable (_ ∧ _ ∧ _))
  | .selectReturns .. | .processTimeouts _ => inferInstanceAs (Decidable (_ ∧ _))
  | .processReadReadies | .firePending | .fire | .callbackReturns =>
    inferInstanceAs (Decidable (_ = _))

def request (pInfo : Option Nat) (callback : κ) (relativeTime : Option Timeval) (now : Timeval)
    (inEventLoop : Bool) : Option (Process κ) :=
  match pInfo with
  | none => some { w with clock := now }
  | some p => do
    let myRelativeTime := relativeTime.getD ⟨0, 0⟩
    let state ← (w.state.rilEventSet (.event (.user p)) (-1) false).rilTimerAdd (.event (.user p))
      (some myRelativeTime) now w.fuel
    let request := ⟨w.requests.length, callback, timeradd now myRelativeTime⟩
    return { w with
      state := state
      infos := Function.update w.infos p (some request)
      triggering := if inEventLoop then w.triggering else w.triggering + 1
      clock := now
      requests := request :: w.requests }

/-- Before there is a pipe, the byte goes elsewhere. -/
def triggerEvLoop : Process κ :=
  { w with
    triggering := w.triggering - 1
    pipe := if w.sFdWakeupRead.isSome then w.pipe + 1 else w.pipe }

/-- The thread itself adds the event of the pipe, and does not write. -/
def eventLoop (fd : Option Int) : Process κ :=
  match fd with
  | none => { w with phase := .ended }
  | some n =>
    { w with
      state := (w.state.rilEventSet (.event .wakeupfd) n true).rilEventAdd (.event .wakeupfd)
      sFdWakeupRead := some n
      phase := .top }

/-- `processWakeupCallback` reads until the pipe is empty. -/
def call (ev : Source) : Process κ :=
  match ev with
  | .wakeupfd => { w with pipe := 0 }
  | .user p => { w with calls := (w.infos p).toList.map (·, w.clock) ++ w.calls }

/-- `userTimerCallback` frees its `UserCallbackInfo`. -/
def returned (ev : Source) : Process κ :=
  match ev with
  | .wakeupfd => w
  | .user p => { w with infos := Function.update w.infos p none }

def handle : Event κ → Option (Process κ)
  | .request pInfo callback relativeTime now inEventLoop =>
    w.request pInfo callback relativeTime now inEventLoop
  | .triggerEvLoop => some w.triggerEvLoop
  | .eventLoop fd => some (w.eventLoop fd)
  | .select now => do
    let ptv ← w.state.calcNextTimeout now
    return { w with
      phase := .selecting w.state.readFds w.state.nfds ptv now
      clock := now }
  | .selectReturns result now =>
    match w.phase with
    | .selecting rfds nfds _ _ =>
      let phase := match result with
        | .interrupted => .top
        | .error => .ended
        | .count => .selected (w.ready rfds nfds) (w.ready rfds nfds).card
      some { w with phase := phase, clock := now }
    | _ => none
  | .processTimeouts now =>
    match w.phase with
    | .selected rfds n => do
      let (state, _) ← w.state.processTimeouts now w.fuel
      return { w with state := state, phase := .expired rfds n, clock := now, checked := now }
    | _ => none
  | .processReadReadies =>
    match w.phase with
    | .expired rfds n => do
      let (state, _) ← w.state.processReadReadies (fun fd => decide (fd ∈ rfds)) n
      return { w with state := state, phase := .read }
    | _ => none
  | .firePending => do
    let ev ← w.state.links.next .pendingList
    return { w with phase := .firing ev }
  | .fire =>
    match w.phase with
    | .firing .pendingList => some { w with phase := .top }
    | .firing (.event ev) => do
      let (state, next) ← w.state.fire (.event ev)
      return { w.call ev with state := state, phase := .calling ev next }
    | _ => none
  | .callbackReturns =>
    match w.phase with
    | .calling ev next => some { w.returned ev with phase := .firing next }
    | _ => none

def step (w : Process κ) (e : Event κ) : Option (Process κ) :=
  if w.Allowed e then w.handle e else none

end Process
end RilEvent
end Huashan
