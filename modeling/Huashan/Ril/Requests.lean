import Huashan.Ril.Dispatch

/-!
# Huashan.Ril.Requests

The life of a request in `ril.cpp`: `addRequestToList` allocates its `RequestInfo` and puts it in
the pending list of its slot, the vendor gets the address as a token, and the token comes back in
`RIL_onRequestAck` and `RIL_onRequestComplete`. Memory is a partial map from addresses, so that a
freed address can be allocated again.

The framework's requests are dispatched by one binder thread: while `dispatchStrings` is between
`onRequest` and its fake success, no other request is dispatched, but the vendor can answer.

The number `id` of a request is not in the source. It tells requests with equal serials and
addresses apart.
-/

namespace Huashan
namespace Ril

/-- A request of the framework. -/
structure Origin where
  id : Nat
  serial : Int32
  deriving DecidableEq, Repr

structure RequestInfo where
  token : Int32
  requestNumber : Nat
  socketId : Nat
  wasAckSent : Bool
  cancelled : Bool
  isLocal : Bool
  id : Nat
  deriving DecidableEq, Repr

/-- A call of `onRequest`: the request, its token and its arguments. -/
structure Issued where
  origin : Origin
  address : Nat
  requestNumber : Nat
  payload : Payload
  deriving DecidableEq, Repr

/-- A response sent to the framework. `owner` is the request whose `RequestInfo` it was made from,
`completed` the request that was answered. -/
structure Response where
  slot : Nat
  serial : Int32
  expectsAck : Bool
  error : RilErrno
  owner : Nat
  completed : Origin
  deriving DecidableEq, Repr

structure State where
  memory : Nat → Option RequestInfo
  pendingRequests : Nat → List Nat
  /-- Which response functions have a callback object to call. -/
  hasCallback : Nat → Bool
  /-- What the vendor was given and has not completed. -/
  issued : List Issued
  /-- The request `dispatchStrings` is about to complete with its fake success. -/
  faking : Option Issued
  /-- The requests it has completed so. -/
  faked : List Nat
  /-- The responses sent, the last one first. -/
  responses : List Response
  /-- The serials `acknowledgeRequest` was called with, the last one first. -/
  acks : List Int32
  nextId : Nat

def State.init (hasCallback : Nat → Bool) : State where
  memory := fun _ => none
  pendingRequests := fun _ => []
  hasCallback := hasCallback
  issued := []
  faking := none
  faked := []
  responses := []
  acks := []
  nextId := 0

/-- The entries of `s_commands`. -/
def numCommands : Nat := 146

/-- What a build and a vendor fix: `SIM_COUNT`, the RIL version, and what is read as `socket_id`
from freed memory. -/
structure Config where
  simCount : Nat
  version : Int
  staleSocket : Nat → Nat

/-- The pending list of a socket. -/
def Config.pendingRequestsHook (cfg : Config) (socketId : Nat) : Nat :=
  if socketId < min cfg.simCount 4 then socketId else 0

namespace State

variable (cfg : Config)

def addRequestToList (s : State) (serial : Int32) (slotId request : Nat) (alloc : Option Nat) :
    State × Option Nat :=
  if request ≥ numCommands then (s, none)
  else match alloc with
    | none => (s, none)
    | some pRI =>
      let hook := cfg.pendingRequestsHook slotId
      ({ s with
          memory := Function.update s.memory pRI (some ⟨serial, request, slotId, false, false,
            false, s.nextId⟩)
          pendingRequests :=
            Function.update s.pendingRequests hook (pRI :: s.pendingRequests hook)
          nextId := s.nextId + 1 }, some pRI)

/-- The pending list in which a token is looked up. -/
def tokenHook (s : State) (pRI : Nat) : Nat :=
  cfg.pendingRequestsHook (((s.memory pRI).map RequestInfo.socketId).getD (cfg.staleSocket pRI))

def checkAndDequeueRequestInfoIfAck (s : State) (pRI : Nat) (isAck : Bool) : State × Bool :=
  let hook := s.tokenHook cfg pRI
  if pRI ≠ 0 ∧ pRI ∈ s.pendingRequests hook then
    if isAck then
      let acked := (s.memory pRI).map fun info => { info with wasAckSent := true }
      ({ s with memory := Function.update s.memory pRI acked }, true)
    else
      ({ s with pendingRequests :=
          Function.update s.pendingRequests hook ((s.pendingRequests hook).erase pRI) }, true)
  else (s, false)

/-- A call of `responseFunction`. -/
def respond (s : State) (info : RequestInfo) (expectsAck : Bool) (e : RilErrno)
    (completed : Origin) : State :=
  if s.hasCallback info.requestNumber then
    { s with responses :=
        ⟨info.socketId, info.token, expectsAck, e, info.id, completed⟩ :: s.responses }
  else s

def rilOnRequestAck (s : State) (pRI : Nat) : State :=
  let (s, ret) := s.checkAndDequeueRequestInfoIfAck cfg pRI true
  match ret, s.memory pRI with
  | true, some info => if info.cancelled then s else { s with acks := info.token :: s.acks }
  | _, _ => s

def rilOnRequestComplete (s : State) (pRI : Nat) (e : RilErrno) (completed : Origin) : State :=
  let (s, ret) := s.checkAndDequeueRequestInfoIfAck cfg pRI false
  match ret, s.memory pRI with
  | true, some info =>
    let s := if info.isLocal || info.cancelled then s
      else s.respond info (decide (cfg.version ≥ 13) && info.wasAckSent) e completed
    { s with memory := Function.update s.memory pRI none }
  | _, _ => s

/-- `sendErrorResponse`; with `NULL` it crashes. -/
def sendErrorResponse (s : State) (pRI : Nat) (e : RilErrno) : State :=
  match s.memory pRI with
  | some info => s.respond info false e ⟨info.id, info.token⟩
  | none => s

/-- A HIDL request, with the outcomes of its allocations. -/
def dispatch (s : State) (serial : Int32) (slotId : Nat) (d : Dispatch) (alloc : Option Nat)
    (outcomes : List Bool) : Option State :=
  match s.addRequestToList cfg serial slotId d.request alloc with
  | (s, none) => if d.checksNull then some s else none
  | (s', some pRI) =>
    match d.arguments outcomes with
    | .error e => some (s'.sendErrorResponse pRI e)
    | .ok (payload, _) =>
      let call : Issued := ⟨⟨s.nextId, serial⟩, pRI, d.request, payload⟩
      some { s' with
        issued := call :: s'.issued
        faking := if d.fakesSuccess then some call else none }

end State

inductive Event where
  | request (serial : Int32) (slotId : Nat) (r : HidlRequest) (alloc : Option Nat)
      (outcomes : List Bool)
  | fakeSuccess
  | ack (call : Issued)
  | complete (call : Issued) (e : RilErrno)
  | setCallbacks (hasCallback : Nat → Bool)

/-- One step. An allocation gives free memory; the vendor answers what it was given and has not
completed yet. -/
def State.step (cfg : Config) (s : State) : Event → Option State
  | .request serial slotId r alloc outcomes =>
    if s.faking = none ∧ ∀ pRI ∈ alloc, pRI ≠ 0 ∧ s.memory pRI = none then
      s.dispatch cfg serial slotId (r.dispatch cfg.version) alloc outcomes
    else none
  | .fakeSuccess =>
    match s.faking with
    | none => none
    | some call =>
      some { s.rilOnRequestComplete cfg call.address rilESuccess call.origin with
        faking := none
        faked := call.origin.id :: s.faked }
  | .ack call => if call ∈ s.issued then some (s.rilOnRequestAck cfg call.address) else none
  | .complete call e =>
    if call ∈ s.issued then
      some (({ s with issued := s.issued.erase call }).rilOnRequestComplete cfg call.address e
        call.origin)
    else none
  | .setCallbacks hasCallback => some { s with hasCallback := hasCallback }

end Ril
end Huashan
