import Huashan.Mailbox

/-!
# Huashan.Polling.Looper

The loop that waits for events on descriptors and for messages that come due: its thread, the
threads that call it, and what the kernel keeps for it, an epoll instance and the pipe that wakes
it.

What is done with the lock held is one step, and so is each call of a handler or a callback; the
calls that these make are steps of their own. Only one thread polls, and it polls again when the
poll before has returned. A descriptor that is watched has no duplicates.
-/

namespace Huashan
namespace Polling

def llongMax : Int := 2 ^ 63 - 1

def intMax : Int := 2 ^ 31 - 1

def epollMaxEvents : Nat := 16

def pollWake : Int := -1
def pollCallback : Int := -2
def pollTimeout : Int := -3
def pollError : Int := -4

def eventInput : BitVec 32 := 1
def eventOutput : BitVec 32 := 2
def eventError : BitVec 32 := 4
def eventHangup : BitVec 32 := 8

def epollIn : BitVec 32 := 1
def epollOut : BitVec 32 := 4
def epollErr : BitVec 32 := 8
def epollHup : BitVec 32 := 16

/-- `result` with a flag when the events have another one. -/
def translate (events flag result : BitVec 32) : BitVec 32 :=
  if events &&& flag ≠ 0 then result else 0

def epollEventsOf (events : BitVec 32) : BitVec 32 :=
  translate events eventInput epollIn ||| translate events eventOutput epollOut

def eventsOf (epollEvents : BitVec 32) : BitVec 32 :=
  translate epollEvents epollIn eventInput ||| translate epollEvents epollOut eventOutput |||
    translate epollEvents epollErr eventError ||| translate epollEvents epollHup eventHangup

/-- `toMillisecondTimeoutDelay` of the platform: the milliseconds from one uptime to another,
rounded up, 0 when the other is not later, and -1 when it is too far away. -/
structure Delay where
  toMillisecondTimeoutDelay : Int → Int → Int
  past : ∀ now uptime, uptime ≤ now → toMillisecondTimeoutDelay now uptime = 0
  later : ∀ now uptime, now < uptime →
    toMillisecondTimeoutDelay now uptime = -1 ∧ (intMax - 1) * 1000000 < uptime - now ∨
    0 ≤ toMillisecondTimeoutDelay now uptime ∧
      uptime - now ≤ toMillisecondTimeoutDelay now uptime * 1000000 ∧
      toMillisecondTimeoutDelay now uptime * 1000000 < uptime - now + 1000000

def millis (now uptime : Int) : Int :=
  if uptime ≤ now then 0
  else if (intMax - 1) * 1000000 < uptime - now then -1
  else (uptime - now + 999999) / 1000000

def millisDelay : Delay where
  toMillisecondTimeoutDelay := millis
  past := by
    intro now uptime h
    rw [millis, if_pos h]
  later := by
    intro now uptime h
    rw [millis, if_neg (by omega)]
    split
    · rename_i hfar
      exact .inl ⟨rfl, hfar⟩
    · exact .inr ⟨by omega, by omega, by omega⟩

structure MessageEnvelope (η : Type) where
  uptime : Int
  handler : η
  what : Int
  deriving DecidableEq

structure Request (γ δ : Type) where
  fd : Int
  ident : Int
  callback : Option γ
  data : δ

structure Response (γ δ : Type) where
  events : BitVec 32
  request : Request γ δ

structure Looper (η γ δ : Type) where
  mAllowNonCallbacks : Bool
  mWakeReadPipeFd : Int
  mMessageEnvelopes : List (MessageEnvelope η)
  mSendingMessage : Bool
  mPolling : Bool
  mRequests : Int → Option (Request γ δ)
  mResponses : List (Response γ δ)
  mResponseIndex : Nat
  mNextMessageUptime : Int

/-! ## The kernel -/

structure Kernel where
  /-- The events for which a descriptor is watched. -/
  interest : Int → Option (BitVec 32)
  /-- The bytes in the wake pipe. -/
  pipe : Nat
  clock : Int

inductive EpollOp where
  | add
  | mod
  | del
  deriving DecidableEq

/-- How `epoll_wait` ends. It has timed out when nothing is ready. -/
inductive Wait where
  | failed (interrupted : Bool)
  | ready (items : List (Int × BitVec 32))

namespace Kernel

def pipeCapacity : Nat := 65536

/-- A descriptor can be added when it is not watched, and be changed or removed when it is. The
kernel may refuse a call for other reasons. -/
def epollCtl (k : Kernel) (op : EpollOp) (fd : Int) (events : BitVec 32) (granted : Bool) :
    Option Kernel :=
  if granted = true ∧ ((k.interest fd).isNone = true ↔ op = .add) then
    let watched := if op = .del then none else some events
    some { k with interest := Function.update k.interest fd watched }
  else none

/-- A pipe that is full takes nothing. -/
def wake (k : Kernel) : Kernel := if k.pipe < pipeCapacity then { k with pipe := k.pipe + 1 } else k

/-- Reads until the pipe does not fill the buffer. -/
def awoken (k : Kernel) : Kernel := { k with pipe := 0 }

/-- `epoll_wait` reports descriptors that are watched, each once. -/
def CanReport (k : Kernel) (timeoutMillis : Int) : Wait → Prop
  | .failed _ => True
  | .ready items => (items = [] → 0 ≤ timeoutMillis) ∧ items.length ≤ epollMaxEvents ∧
      (items.map Prod.fst).Nodup ∧ ∀ item ∈ items, (k.interest item.1).isSome = true

instance (k : Kernel) (timeoutMillis : Int) (wait : Wait) :
    Decidable (k.CanReport timeoutMillis wait) :=
  match wait with
  | .failed _ => .isTrue trivial
  | .ready _ => inferInstanceAs (Decidable (_ ∧ _ ∧ _ ∧ _))

theorem epollCtl_eq_some {k k' : Kernel} {op : EpollOp} {fd : Int} {events : BitVec 32}
    {granted : Bool} : k.epollCtl op fd events granted = some k' ↔
      (granted = true ∧ ((k.interest fd).isNone = true ↔ op = .add)) ∧
        k' = { k with interest :=
          Function.update k.interest fd (if op = .del then none else some events) } := by
  unfold epollCtl
  split
  · rename_i h
    rw [Option.some.injEq]
    exact ⟨fun heq => ⟨h, heq.symm⟩, fun heq => heq.2.symm⟩
  · rename_i h
    exact ⟨nofun, fun heq => (h heq.1).elim⟩

theorem wake_pipe (k : Kernel) : k.wake.pipe ≠ 0 := by
  unfold wake
  split
  · exact Nat.succ_ne_zero _
  · rename_i hfull
    rw [pipeCapacity] at hfull
    omega

theorem wake_frame (k : Kernel) : k.wake.clock = k.clock ∧ k.wake.interest = k.interest := by
  unfold wake
  split
  · exact ⟨rfl, rfl⟩
  · exact ⟨rfl, rfl⟩

end Kernel

/-! ## The functions of the class -/

section Functions

variable {η γ δ : Type} [DecidableEq η] (l : Looper η γ δ)

/-- The loop over the messages that are due no later. -/
def insertionIndex (uptime : Int) : List (MessageEnvelope η) → Nat
  | [] => 0
  | e :: es => if e.uptime ≤ uptime then insertionIndex uptime es + 1 else 0

/-- The messages after `sendMessageAtTime`, and whether it goes on to call `wake`. -/
def Looper.sendMessageAtTime (e : MessageEnvelope η) : Looper η γ δ × Bool :=
  let i := insertionIndex e.uptime l.mMessageEnvelopes
  let l' := { l with mMessageEnvelopes := l.mMessageEnvelopes.insertIdx i e }
  if l.mSendingMessage then (l', false) else (l', i = 0)

/-- The loop of `removeMessages`, from the last message to the first. -/
def removeFrom (p : MessageEnvelope η → Bool) : Nat → List (MessageEnvelope η) →
    List (MessageEnvelope η)
  | 0, es => es
  | i + 1, es =>
    match es[i]? with
    | some e => removeFrom p i (if p e then es.eraseIdx i else es)
    | none => removeFrom p i es

def Looper.removeWhere (p : MessageEnvelope η → Bool) : Looper η γ δ :=
  { l with mMessageEnvelopes := removeFrom p l.mMessageEnvelopes.length l.mMessageEnvelopes }

/-- The messages for a handler, or those of them that have this value. -/
def isFor (handler : η) (what : Option Int) (e : MessageEnvelope η) : Bool :=
  decide (e.handler = handler) && what.all fun n => decide (e.what = n)

/-- Both functions of this name: `what` is given or not. -/
def Looper.removeMessages (handler : η) (what : Option Int) : Looper η γ δ :=
  l.removeWhere (isFor handler what)

def Looper.addFd (k : Kernel) (fd ident : Int) (events : BitVec 32) (callback : Option γ)
    (data : δ) (granted : Bool) : Looper η γ δ × Kernel × Int :=
  if callback.isNone = true ∧ l.mAllowNonCallbacks = false then (l, k, -1)
  else if callback.isNone = true ∧ ident < 0 then (l, k, -1)
  else
    let ident := if callback.isSome then pollCallback else ident
    let request : Request γ δ := ⟨fd, ident, callback, data⟩
    let op := if (l.mRequests fd).isNone then EpollOp.add else EpollOp.mod
    match k.epollCtl op fd (epollEventsOf events) granted with
    | none => (l, k, -1)
    | some k => ({ l with mRequests := Function.update l.mRequests fd (some request) }, k, 1)

def Looper.removeFd (k : Kernel) (fd : Int) (granted : Bool) : Looper η γ δ × Kernel × Int :=
  if (l.mRequests fd).isNone then (l, k, 0)
  else
    match k.epollCtl .del fd 0 granted with
    | none => (l, k, -1)
    | some k => ({ l with mRequests := Function.update l.mRequests fd none }, k, 1)

/-- A request as `addFd` makes it. -/
structure Request.WellFormed (r : Request γ δ) (fd : Int) (allowNonCallbacks : Bool) : Prop where
  fd_eq : r.fd = fd
  callback : r.ident = pollCallback ∧ r.callback.isSome = true ∨
    0 ≤ r.ident ∧ r.callback = none ∧ allowNonCallbacks = true

variable {l} in
omit [DecidableEq η] in
theorem Looper.addFd_cases (k : Kernel) (fd ident : Int) (events : BitVec 32)
    (callback : Option γ) (data : δ) (granted : Bool) :
    l.addFd k fd ident events callback data granted = (l, k, -1) ∨
      ∃ k' request, request.WellFormed fd l.mAllowNonCallbacks ∧
        k.epollCtl (if (l.mRequests fd).isNone then .add else .mod) fd (epollEventsOf events)
          granted = some k' ∧
        l.addFd k fd ident events callback data granted =
          ({ l with mRequests := Function.update l.mRequests fd (some request) }, k', 1) := by
  unfold Looper.addFd
  split
  · exact .inl rfl
  · rename_i hallow
    split
    · exact .inl rfl
    · rename_i hident
      cases hctl : k.epollCtl (if (l.mRequests fd).isNone then .add else .mod) fd
        (epollEventsOf events) granted with
      | none =>
        left
        simp only [hctl]
      | some k' =>
        refine .inr ⟨k', ⟨fd, if callback.isSome then pollCallback else ident, callback, data⟩,
          ⟨rfl, ?_⟩, rfl, by simp only [hctl]⟩
        cases callback with
        | some c => exact .inl ⟨rfl, rfl⟩
        | none =>
          have hpos : 0 ≤ ident := by simpa using hident
          have hallowed : l.mAllowNonCallbacks = true := by simpa using hallow
          exact .inr ⟨hpos, rfl, hallowed⟩

variable {l} in
omit [DecidableEq η] in
theorem Looper.removeFd_cases (k : Kernel) (fd : Int) (granted : Bool) :
    (∃ r, l.removeFd k fd granted = (l, k, r)) ∨
      ∃ k', k.epollCtl .del fd 0 granted = some k' ∧ (l.mRequests fd).isSome = true ∧
        l.removeFd k fd granted =
          ({ l with mRequests := Function.update l.mRequests fd none }, k', 1) := by
  unfold Looper.removeFd
  cases hr : l.mRequests fd with
  | none => exact .inl ⟨0, rfl⟩
  | some r =>
    cases hctl : k.epollCtl .del fd 0 granted with
    | none => exact .inl ⟨-1, by simp⟩
    | some k' => exact .inr ⟨k', rfl, rfl, by simp⟩

/-- The next response that has an identifier, and where the search stops. -/
def nextIdent : List (Response γ δ) → Nat → Option (Response γ δ) × Nat
  | [], i => (none, i)
  | r :: rs, i => if 0 ≤ r.request.ident then (some r, i + 1) else nextIdent rs (i + 1)

/-- The timeout of a poll, no longer than until the next message is due. -/
def adjust (D : Delay) (timeoutMillis now next : Int) : Int :=
  if timeoutMillis ≠ 0 ∧ next ≠ llongMax then
    let messageTimeoutMillis := D.toMillisecondTimeoutDelay now next
    if 0 ≤ messageTimeoutMillis ∧ (timeoutMillis < 0 ∨ messageTimeoutMillis < timeoutMillis) then
      messageTimeoutMillis
    else timeoutMillis
  else timeoutMillis

end Functions

/-! ## The threads -/

/-- Where the thread that polls is. -/
inductive Phase (η : Type) where
  /-- In none of the functions. -/
  | idle
  /-- In `epoll_wait`, with the timeout that was computed at `now`. -/
  | waiting (timeoutMillis now : Int)
  /-- Before it takes the lock. -/
  | polled (wait : Wait)
  | handling (e : MessageEnvelope η)
  /-- At the `i`-th response, with the result of the poll so far. -/
  | responding (i : Nat) (result : Int)
  /-- In the callback of the `i`-th response. -/
  | calling (i : Nat)

/-- What a call of `pollOnce` gives its caller. -/
structure Returned (δ : Type) where
  result : Int
  outFd : Int
  outEvents : BitVec 32
  outData : Option δ

structure World (η γ δ : Type) where
  looper : Looper η γ δ
  kernel : Kernel
  phase : Phase η
  /-- The argument of the `pollOnce` that runs. -/
  timeoutMillis : Int
  /-- The threads that have sent a message and are about to call `wake`. -/
  wakers : Nat
  /-- What has been done with messages. -/
  history : List (Mailbox.Action Int (MessageEnvelope η))
  /-- The responses that polls have pushed. -/
  collected : List (Response γ δ)
  /-- The responses whose callback was called or whose identifier was returned. -/
  dispatched : List (Response γ δ)
  returned : List (Returned δ)

inductive Event (η γ δ : Type) where
  | pollOnce (timeoutMillis : Int)
  /-- `epoll_wait` returns. -/
  | waited (wait : Wait)
  | locked
  /-- A handler returns. -/
  | handled
  /-- A turn of the loop over the responses. -/
  | respond
  /-- A callback returns. -/
  | answered (callbackResult : Int) (granted : Bool)
  | sendMessageAtTime (e : MessageEnvelope η)
  /-- The call of `wake` in `sendMessageAtTime`. -/
  | wakeAfterSend
  | wake
  | removeMessages (handler : η) (what : Option Int)
  | addFd (fd ident : Int) (events : BitVec 32) (callback : Option γ) (data : δ) (granted : Bool)
  | removeFd (fd : Int) (granted : Bool)
  /-- A descriptor is closed that is the last one of its open file, which ends that the file is
  watched. -/
  | close (fd : Int)
  | tick (now : Int)

namespace World

variable {η γ δ : Type} [DecidableEq η]

/-- After the constructor. -/
def new (allowNonCallbacks : Bool) (wakeFd clock : Int) : World η γ δ where
  looper :=
    { mAllowNonCallbacks := allowNonCallbacks
      mWakeReadPipeFd := wakeFd
      mMessageEnvelopes := []
      mSendingMessage := false
      mPolling := false
      mRequests := fun _ => none
      mResponses := []
      mResponseIndex := 0
      mNextMessageUptime := llongMax }
  kernel :=
    { interest := Function.update (fun _ => none) wakeFd (some epollIn)
      pipe := 0
      clock := clock }
  phase := .idle
  timeoutMillis := 0
  wakers := 0
  history := []
  collected := []
  dispatched := []
  returned := []

variable (D : Delay) (w : World η γ δ)

def pushResponse (events : BitVec 32) (request : Request γ δ) : World η γ δ :=
  let response : Response γ δ := ⟨events, request⟩
  { w with
    looper := { w.looper with mResponses := w.looper.mResponses ++ [response] }
    collected := w.collected ++ [response] }

/-- What `pollInner` does with an event. -/
def handleItem (item : Int × BitVec 32) : World η γ δ :=
  if item.1 = w.looper.mWakeReadPipeFd then
    if item.2 &&& epollIn ≠ 0 then { w with kernel := w.kernel.awoken } else w
  else
    match w.looper.mRequests item.1 with
    | some request => w.pushResponse (eventsOf item.2) request
    | none => w

/-- A turn of the loop over the messages. -/
def nextMessage (result : Int) : World η γ δ :=
  match w.looper.mMessageEnvelopes with
  | [] => { w with phase := .responding 0 result }
  | e :: es =>
    if e.uptime ≤ w.kernel.clock then
      { w with
        looper := { w.looper with mMessageEnvelopes := es, mSendingMessage := true }
        phase := .handling e
        history := w.history ++ [.deliver w.kernel.clock e] }
    else
      { w with
        looper := { w.looper with mNextMessageUptime := e.uptime }
        phase := .responding 0 result }

/-- `pollInner` from `Done` on. -/
def done (result : Int) : World η γ δ :=
  nextMessage { w with looper := { w.looper with mNextMessageUptime := llongMax } } result

/-- `pollInner` from where it takes the lock. -/
def lock (wait : Wait) : World η γ δ :=
  match wait with
  | .failed true => w.done pollWake
  | .failed false => w.done pollError
  | .ready [] => w.done pollTimeout
  | .ready items => (items.foldl handleItem w).done pollWake

/-- `pollInner` until it waits. -/
def pollInner (timeoutMillis : Int) : World η γ δ :=
  { w with
    looper := { w.looper with mResponses := [], mResponseIndex := 0, mPolling := true }
    phase :=
      .waiting (adjust D timeoutMillis w.kernel.clock w.looper.mNextMessageUptime) w.kernel.clock }

/-- A turn of the loop of `pollOnce`. -/
def turn (result : Int) : World η γ δ :=
  let search := nextIdent (w.looper.mResponses.drop w.looper.mResponseIndex) w.looper.mResponseIndex
  let w : World η γ δ := { w with looper := { w.looper with mResponseIndex := search.2 } }
  match search.1 with
  | some r =>
    { w with
      phase := .idle
      dispatched := w.dispatched ++ [r]
      returned := w.returned ++ [⟨r.request.ident, r.request.fd, r.events, some r.request.data⟩] }
  | none =>
    if result ≠ 0 then
      { w with phase := .idle, returned := w.returned ++ [⟨result, 0, 0, none⟩] }
    else w.pollInner D w.timeoutMillis

/-- A turn of the loop over the responses, which ends with the result of `pollInner`. -/
def respond (i : Nat) (result : Int) : World η γ δ :=
  match w.looper.mResponses[i]? with
  | some r =>
    if r.request.ident = pollCallback then
      { w with phase := .calling i, dispatched := w.dispatched ++ [r] }
    else { w with phase := .responding (i + 1) result }
  | none => w.turn D result

def addFd (fd ident : Int) (events : BitVec 32) (callback : Option γ) (data : δ)
    (granted : Bool) : World η γ δ :=
  let r := w.looper.addFd w.kernel fd ident events callback data granted
  { w with looper := r.1, kernel := r.2.1 }

def removeFd (fd : Int) (granted : Bool) : World η γ δ :=
  let r := w.looper.removeFd w.kernel fd granted
  { w with looper := r.1, kernel := r.2.1 }

def clearCallback (r : Response γ δ) : Response γ δ :=
  { r with request := { r.request with callback := none } }

/-- A callback has returned. -/
def answered (i : Nat) (callbackResult : Int) (granted : Bool) : World η γ δ :=
  match w.looper.mResponses[i]? with
  | some r =>
    let w := if callbackResult = 0 then w.removeFd r.request.fd granted else w
    { w with
      looper := { w.looper with mResponses := w.looper.mResponses.modify i clearCallback }
      phase := .responding (i + 1) pollCallback }
  | none => w

def sendMessageAtTime (e : MessageEnvelope η) : World η γ δ :=
  let r := w.looper.sendMessageAtTime e
  { w with
    looper := r.1
    wakers := if r.2 then w.wakers + 1 else w.wakers
    history := w.history ++ [.post e] }

/-- A step of the thread that polls, or a call of another function by any thread. -/
def step (w : World η γ δ) : Event η γ δ → Option (World η γ δ)
  | .pollOnce timeoutMillis =>
    match w.phase with
    | .idle => some (turn D { w with timeoutMillis := timeoutMillis } 0)
    | _ => none
  | .waited wait =>
    match w.phase with
    | .waiting timeoutMillis _ =>
      if w.kernel.CanReport timeoutMillis wait then
        some { w with looper := { w.looper with mPolling := false }, phase := .polled wait }
      else none
    | _ => none
  | .locked =>
    match w.phase with
    | .polled wait => some (w.lock wait)
    | _ => none
  | .handled =>
    match w.phase with
    | .handling _ =>
      some (nextMessage { w with looper := { w.looper with mSendingMessage := false } }
        pollCallback)
    | _ => none
  | .respond =>
    match w.phase with
    | .responding i result => some (w.respond D i result)
    | _ => none
  | .answered callbackResult granted =>
    match w.phase with
    | .calling i => some (w.answered i callbackResult granted)
    | _ => none
  | .sendMessageAtTime e => some (w.sendMessageAtTime e)
  | .wakeAfterSend =>
    if 0 < w.wakers then some { w with kernel := w.kernel.wake, wakers := w.wakers - 1 } else none
  | .wake => some { w with kernel := w.kernel.wake }
  | .removeMessages handler what =>
    some { w with
      looper := w.looper.removeMessages handler what
      history := w.history ++ [.cancel (isFor handler what)] }
  | .addFd fd ident events callback data granted =>
    some (w.addFd fd ident events callback data granted)
  | .removeFd fd granted => some (w.removeFd fd granted)
  | .close fd =>
    -- The descriptors of the looper are its own.
    if fd = w.looper.mWakeReadPipeFd then none
    else some { w with kernel :=
      { w.kernel with interest := Function.update w.kernel.interest fd none } }
  | .tick now =>
    if w.kernel.clock ≤ now then some { w with kernel := { w.kernel with clock := now } } else none

/-! ## The guarded steps -/

variable {D w} {w' : World η γ δ}

theorem step_pollOnce {timeoutMillis : Int} :
    w.step D (.pollOnce timeoutMillis) = some w' ↔
      w.phase = .idle ∧ turn D { w with timeoutMillis := timeoutMillis } 0 = w' := by
  cases hp : w.phase <;> simp [step, hp]

theorem step_waited {wait : Wait} : w.step D (.waited wait) = some w' ↔
    ∃ t now, w.phase = .waiting t now ∧ w.kernel.CanReport t wait ∧
      { w with looper := { w.looper with mPolling := false }, phase := .polled wait } = w' := by
  cases hp : w.phase with
  | waiting t now =>
    by_cases hwait : w.kernel.CanReport t wait
    · simp [step, hp, hwait]
    · simp [step, hp, hwait]
  | _ => simp [step, hp]

theorem step_locked : w.step D .locked = some w' ↔
    ∃ wait, w.phase = .polled wait ∧ w.lock wait = w' := by
  cases hp : w.phase <;> simp [step, hp]

theorem step_handled : w.step D .handled = some w' ↔ (∃ e, w.phase = .handling e) ∧
    nextMessage { w with looper := { w.looper with mSendingMessage := false } } pollCallback =
      w' := by
  cases hp : w.phase <;> simp [step, hp]

theorem step_respond : w.step D .respond = some w' ↔
    ∃ i result, w.phase = .responding i result ∧ w.respond D i result = w' := by
  cases hp : w.phase with
  | responding i result => simp [step, hp]
  | _ => simp [step, hp]

theorem step_answered {callbackResult : Int} {granted : Bool} :
    w.step D (.answered callbackResult granted) = some w' ↔
      ∃ i, w.phase = .calling i ∧ w.answered i callbackResult granted = w' := by
  cases hp : w.phase <;> simp [step, hp]

theorem step_wakeAfterSend : w.step D .wakeAfterSend = some w' ↔ 0 < w.wakers ∧
    { w with kernel := w.kernel.wake, wakers := w.wakers - 1 } = w' := by
  simp [step]

theorem step_close {fd : Int} : w.step D (.close fd) = some w' ↔
    fd ≠ w.looper.mWakeReadPipeFd ∧
      { w with kernel :=
        { w.kernel with interest := Function.update w.kernel.interest fd none } } = w' := by
  simp [step]

theorem step_tick {now : Int} : w.step D (.tick now) = some w' ↔
    w.kernel.clock ≤ now ∧ { w with kernel := { w.kernel with clock := now } } = w' := by
  simp [step]

end World
end Polling
end Huashan
