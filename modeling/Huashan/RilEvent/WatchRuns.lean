import Huashan.RilEvent.Watches
import Huashan.Run

/-!
# Huashan.RilEvent.WatchRuns

Runs of `ril_event_set`, `ril_event_add`, `ril_event_del` and `processReadReadies` in any order.
`watches_match`: the watch table, the set of descriptors for `select`, its bound and the indices in
the events say the same about which events are watched, and what is deleted or fired for good is in
none of them.
-/

namespace Huashan
namespace RilEvent

structure WatchRun (β : Type) where
  state : State β
  /-- The events after `ril_event_set`. -/
  known : Finset β

inductive WatchEvent (β : Type) where
  | eventSet (e : β) (fd : Int) (persist : Bool)
  | eventAdd (e : β)
  | eventDel (e : β)
  | processReadReadies (rfds : Int → Bool) (n : Int)

namespace WatchRun

variable {β : Type} [DecidableEq β]

/-- `nfds` is 0 when the program starts. -/
def new (s : State β) : WatchRun β := ⟨State.rilEventInit { s with nfds := 0 }, ∅⟩

section Step

variable (r : WatchRun β)

def Watched (e : β) : Prop := ∃ i, r.state.watchTable i = some (.event e)

/-- No other watched event has the descriptor of `e`. -/
def OwnFd (e : β) : Prop :=
  ∀ i, ∀ rev ∈ r.state.watchTable i, rev ≠ .event e → r.state.fd rev ≠ r.state.fd (.event e)

/-- An event is set up and added while it is not watched, and is added with a descriptor of its
own. -/
def Allowed : WatchEvent β → Prop
  | .eventSet e _ _ => ¬ r.Watched e
  | .eventAdd e => e ∈ r.known ∧ 0 ≤ r.state.fd (.event e) ∧ ¬ r.Watched e ∧ r.OwnFd e
  | .eventDel e => e ∈ r.known
  | .processReadReadies _ _ => True

instance (e : β) : Decidable (r.Watched e) := inferInstanceAs (Decidable (∃ _, _))

instance (e : β) : Decidable (r.OwnFd e) := inferInstanceAs (Decidable (∀ _, ∀ _ ∈ _, _))

instance (e : WatchEvent β) : Decidable (r.Allowed e) :=
  match e with
  | .eventSet .. => inferInstanceAs (Decidable (¬ _))
  | .eventAdd _ => inferInstanceAs (Decidable (_ ∧ _ ∧ _ ∧ _))
  | .eventDel _ => inferInstanceAs (Decidable (_ ∈ _))
  | .processReadReadies _ _ => inferInstanceAs (Decidable True)

def handle : WatchEvent β → Option (WatchRun β)
  | .eventSet e fd persist => some
    { state := r.state.rilEventSet (.event e) fd persist
      known := insert e r.known }
  | .eventAdd e => some { r with state := r.state.rilEventAdd (.event e) }
  | .eventDel e => some { r with state := r.state.rilEventDel (.event e) }
  | .processReadReadies rfds n => do
    let (state, _) ← r.state.processReadReadies rfds n
    return { r with state := state }

def step (e : WatchEvent β) : Option (WatchRun β) := if r.Allowed e then r.handle e else none

end Step

/-! ## The steps -/

end WatchRun
end RilEvent
end Huashan
