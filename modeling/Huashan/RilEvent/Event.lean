import Huashan.Ring

/-!
# Huashan.RilEvent.Event

The event loop's data of `ril_event.cpp`: the two circular lists through the events, the watch
table and the set of descriptors for `select`. `β` are the events of the clients; the fields of the
`struct ril_event` are functions of the address. A function that follows a null pointer is `none`.

The loops over the lists take the number of their turns as fuel. The set of descriptors is not
bounded by `FD_SETSIZE`.
-/

namespace Huashan
namespace RilEvent

/-! ## Times -/

structure Timeval where
  tvSec : Int
  tvUsec : Int
  deriving DecidableEq, Repr

/-- `timercmp(a, b, <)`. -/
def timercmp (a b : Timeval) : Bool :=
  if a.tvSec = b.tvSec then a.tvUsec < b.tvUsec else a.tvSec < b.tvSec

def timeradd (a b : Timeval) : Timeval :=
  let sec := a.tvSec + b.tvSec
  let usec := a.tvUsec + b.tvUsec
  if usec ≥ 1000000 then ⟨sec + 1, usec - 1000000⟩ else ⟨sec, usec⟩

/-- The order that `timercmp` tests. -/
def Timeval.lex (t : Timeval) : Int ×ₗ Int := toLex (t.tvSec, t.tvUsec)

theorem Timeval.lex_injective : Function.Injective Timeval.lex := by
  rintro ⟨sec, usec⟩ ⟨sec', usec'⟩ h
  have hpair := toLex_inj.mp h
  rw [Prod.mk.injEq] at hpair
  rw [Timeval.mk.injEq]
  exact hpair

instance : LinearOrder Timeval := LinearOrder.lift' Timeval.lex Timeval.lex_injective

theorem Timeval.lt_iff (a b : Timeval) :
    a < b ↔ a.tvSec < b.tvSec ∨ a.tvSec = b.tvSec ∧ a.tvUsec < b.tvUsec := Prod.Lex.lt_iff

theorem Timeval.le_iff (a b : Timeval) :
    a ≤ b ↔ a.tvSec < b.tvSec ∨ a.tvSec = b.tvSec ∧ a.tvUsec ≤ b.tvUsec := Prod.Lex.le_iff

theorem timercmp_iff (a b : Timeval) : timercmp a b = true ↔ a < b := by
  rw [Timeval.lt_iff, timercmp]
  split <;> simp <;> omega

/-- Time passes by adding a time that is not negative. -/
theorem le_timeradd (now : Timeval) {tv : Timeval} (h : ⟨0, 0⟩ ≤ tv) : now ≤ timeradd now tv := by
  rw [Timeval.le_iff] at h ⊢
  simp only [timeradd]
  split <;> simp only at h ⊢ <;> omega

/-! ## The data -/

def maxFdEvents : Nat := 8

/-- The sentinels of the two lists, and the events of the clients. -/
inductive Node (β : Type) where
  | timerList
  | pendingList
  | event (e : β)
  deriving DecidableEq, Repr

structure State (β : Type) where
  links : Links (Node β)
  fd : Node β → Int
  index : Node β → Int
  persist : Node β → Bool
  timeout : Node β → Timeval
  readFds : Finset Int
  nfds : Int
  watchTable : Fin maxFdEvents → Option (Node β)

namespace State

variable {β : Type} [DecidableEq β] (s : State β)

/-- `memset` of an event. -/
def clear (ev : Node β) : State β :=
  { s with
    links := (s.links.setNext ev none).setPrev ev none
    fd := Function.update s.fd ev 0
    index := Function.update s.index ev 0
    persist := Function.update s.persist ev false
    timeout := Function.update s.timeout ev ⟨0, 0⟩ }

def initList (list : Node β) : State β :=
  { s.clear list with
    links := s.links.init list
    fd := Function.update s.fd list (-1) }

/-- `nfds` is left as it is. -/
def rilEventInit : State β :=
  { (s.initList .timerList).initList .pendingList with
    readFds := ∅
    watchTable := fun _ => none }

def addToList (ev list : Node β) : Option (State β) :=
  (s.links.insertBefore ev list).map fun links => { s with links := links }

def removeFromList (ev : Node β) : Option (State β) :=
  (s.links.unlink ev).map fun links => { s with links := links }

/-! ## Watches -/

/-- The loop of `removeWatch`: the largest descriptor that is watched, or 0. -/
def largestFd : Int :=
  (List.finRange maxFdEvents).foldl (fun n i =>
    match s.watchTable i with
    | some rev => if s.fd rev > n then s.fd rev else n
    | none => n) 0

def removeWatch (ev : Node β) (i : Fin maxFdEvents) : State β :=
  let s := { s with
    watchTable := Function.update s.watchTable i none
    index := Function.update s.index ev (-1)
    readFds := s.readFds.erase (s.fd ev) }
  if s.fd ev + 1 = s.nfds then { s with nfds := s.largestFd + 1 } else s

def rilEventSet (ev : Node β) (fd : Int) (persist : Bool) : State β :=
  let s := s.clear ev
  { s with
    fd := Function.update s.fd ev fd
    index := Function.update s.index ev (-1)
    persist := Function.update s.persist ev persist }

/-- With no free slot the event is dropped. -/
def rilEventAdd (ev : Node β) : State β :=
  match (List.finRange maxFdEvents).find? fun i => (s.watchTable i).isNone with
  | none => s
  | some i =>
    { s with
      watchTable := Function.update s.watchTable i (some ev)
      index := Function.update s.index ev i.val
      readFds := insert (s.fd ev) s.readFds
      nfds := if s.fd ev ≥ s.nfds then s.fd ev + 1 else s.nfds }

def rilEventDel (ev : Node β) : State β :=
  if h : s.index ev < 0 ∨ s.index ev ≥ maxFdEvents then s
  else s.removeWatch ev ⟨(s.index ev).toNat, by omega⟩

/-- A turn of the loop of `processReadReadies`, with the number of ready descriptors left and the
events that have been put on the pending list. -/
def readReady (rfds : Int → Bool) (x : State β × Int × List (Node β)) (i : Fin maxFdEvents) :
    Option (State β × Int × List (Node β)) :=
  let (s, n, fired) := x
  match s.watchTable i with
  | none => some x
  | some rev =>
    if n > 0 ∧ rfds (s.fd rev) then do
      let s ← s.addToList rev .pendingList
      let s := if s.persist rev = false then s.removeWatch rev i else s
      return (s, n - 1, fired ++ [rev])
    else some x

def processReadReadies (rfds : Int → Bool) (n : Int) : Option (State β × List (Node β)) :=
  ((List.finRange maxFdEvents).foldlM (readReady rfds) (s, n, [])).map
    fun (s, _, fired) => (s, fired)

/-! ## Timers -/

/-- The loop of `ril_timer_add`: the first event from `list` on that is not before `timeout`. -/
def findLater (timeout : Timeval) : Nat → Node β → Option (Node β)
  | 0, _ => none
  | fuel + 1, list =>
    if timercmp (s.timeout list) timeout && list != .timerList then do
      let next ← s.links.next list
      findLater timeout fuel next
    else some list

def rilTimerAdd (ev : Node β) (tv : Option Timeval) (now : Timeval) (fuel : Nat) :
    Option (State β) :=
  match tv with
  | none => some s
  | some tv => do
    let list ← s.links.next .timerList
    let s := { s with
      fd := Function.update s.fd ev (-1)
      timeout := Function.update s.timeout ev (timeradd now tv) }
    let list ← s.findLater (s.timeout ev) fuel list
    s.addToList ev list

/-- The loop of `processTimeouts` from `tev` on, with the events that it puts on the pending
list. -/
def expireFrom (now : Timeval) : Nat → State β → Node β → Option (State β × List (Node β))
  | 0, _, _ => none
  | fuel + 1, s, tev =>
    if tev != .timerList && timercmp (s.timeout tev) now then do
      let next ← s.links.next tev
      let s ← s.removeFromList tev
      let s ← s.addToList tev .pendingList
      let (s, expired) ← expireFrom now fuel s next
      return (s, tev :: expired)
    else some (s, [])

def processTimeouts (now : Timeval) (fuel : Nat) : Option (State β × List (Node β)) := do
  let tev ← s.links.next .timerList
  expireFrom now fuel s tev

/-- A turn of the loop of `firePending`: the event `ev` leaves the list before its function is
called, and the next one is known by then. -/
def fire (ev : Node β) : Option (State β × Node β) := do
  let next ← s.links.next ev
  let s ← s.removeFromList ev
  return (s, next)

end State
end RilEvent
end Huashan
