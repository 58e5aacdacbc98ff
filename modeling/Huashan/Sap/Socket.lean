import Huashan.Run
import Huashan.Sap.Responses

/-!
# Huashan.Sap.Socket

`RilSapSocket` and its queue of pending requests. A request consists of a `MsgHeader` and of a
`SapSocketRequest` that points to it; the address of the latter is the token of the vendor. The
queue is the list of these addresses from `front` on. Both kinds of memory are partial maps from
addresses, and a freed address can be allocated again.
-/

namespace Huashan
namespace Sap

open Ril (Bytes RilErrno)

structure SapSocketRequest where
  token : Int32
  curr : Nat
  deriving DecidableEq, Repr

/-- A call of `onRequest`. -/
structure Issued where
  address : Nat
  id : MsgId
  payload : Bytes
  deriving DecidableEq, Repr

/-- What is not in the source: nanopb, and what is read from freed memory. -/
structure Config where
  pb : PbDecode
  staleRequest : Nat → SapSocketRequest
  staleHeader : Nat → MsgHeader

structure State where
  headers : Nat → Option MsgHeader
  requests : Nat → Option SapSocketRequest
  pendingResponseQueue : List Nat
  /-- Whether the vendor has given its functions. -/
  uimFuncs : Bool
  /-- What the vendor was given and has not completed, the last one first. -/
  issued : List Issued
  sapImpl : SapImpl

namespace State

def init (uimFuncs : Bool) (sapImpl : SapImpl) : State where
  headers := fun _ => none
  requests := fun _ => none
  pendingResponseQueue := []
  uimFuncs := uimFuncs
  issued := []
  sapImpl := sapImpl

/-- What `malloc` can return. -/
def IsFree (s : State) (address : Nat) : Prop :=
  address ≠ 0 ∧ s.headers address = none ∧ s.requests address = none

instance (s : State) (address : Nat) : Decidable (s.IsFree address) :=
  inferInstanceAs (Decidable (_ ∧ _ ∧ _))

/-- A header in the memory at `req`. -/
def setHeader (s : State) (req : Nat) (hdr : MsgHeader) : State :=
  { s with headers := Function.update s.headers req (some hdr) }

def enqueue (s : State) (request : Nat) : State :=
  { s with pendingResponseQueue := request :: s.pendingResponseQueue }

/-- `alloc` is the memory for the `SapSocketRequest`. -/
def dispatchRequest (s : State) (req : Nat) (hdr : MsgHeader) (alloc : Option Nat) : State :=
  match alloc with
  | none => { s with headers := Function.update s.headers req none }
  | some currRequest =>
    let s₁ := { s with
      requests := Function.update s.requests currRequest (some ⟨hdr.token, req⟩) }.enqueue
        currRequest
    if s₁.uimFuncs then { s₁ with issued := ⟨currRequest, hdr.id, hdr.payload⟩ :: s₁.issued }
    else s₁

variable (cfg : Config)

def readRequest (s : State) (address : Nat) : SapSocketRequest :=
  (s.requests address).getD (cfg.staleRequest address)

def readHeader (s : State) (address : Nat) : MsgHeader :=
  (s.headers address).getD (cfg.staleHeader address)

/-- What `checkAndDequeue` looks for. -/
def matchesRequest (s : State) (id : MsgId) (token : Int32) (request : Nat) : Bool :=
  token == (s.readRequest cfg request).token &&
    id == (s.readHeader cfg (s.readRequest cfg request).curr).id

def checkAndDequeue (s : State) (id : MsgId) (token : Int32) : State :=
  match s.pendingResponseQueue.find? (s.matchesRequest cfg id token) with
  | none => s
  | some temp =>
    { s with
      pendingResponseQueue := s.pendingResponseQueue.eraseP (s.matchesRequest cfg id token)
      requests := Function.update s.requests temp none }

/-- `calloc` is the outcome of the allocation of the payload; `malloc` and `isOk` are those of
`sap::processResponse`. -/
def onRequestComplete (s : State) (t : Nat) (e : RilErrno) (response : Option Bytes)
    (calloc malloc isOk : Bool) : State :=
  let request := s.readRequest cfg t
  if t = 0 ∨ request.curr = 0 then s
  else
    let hdr := s.readHeader cfg request.curr
    let rsp : MsgHeader := ⟨hdr.token, .response, hdr.id, e, response.getD []⟩
    let s₁ := if calloc then
        { s with sapImpl := s.sapImpl.processResponse cfg.pb rsp malloc isOk }
      else s
    let s₂ := s₁.checkAndDequeue cfg hdr.id hdr.token
    { s₂ with headers := Function.update s₂.headers request.curr none }

/-- `token` is what is in the uninitialized token of the message. -/
def onUnsolicitedResponse (s : State) (token : Int32) (unsolResponse : MsgId)
    (data : Option Bytes) (calloc malloc isOk : Bool) : State :=
  match data with
  | none => s
  | some data =>
    if data.length = 0 ∨ calloc = false then s
    else
      let rsp : MsgHeader := ⟨token, .unsolResponse, unsolResponse, Ril.rilESuccess, data⟩
      { s with sapImpl := s.sapImpl.processUnsolResponse cfg.pb rsp malloc isOk }

end State

inductive Event where
  /-- `req` is the memory of the header. -/
  | dispatch (req : Nat) (hdr : MsgHeader) (alloc : Option Nat)
  | complete (call : Issued) (e : RilErrno) (response : Option Bytes) (calloc malloc isOk : Bool)
  | unsolicited (token : Int32) (unsolResponse : MsgId) (data : Option Bytes)
      (calloc malloc isOk : Bool)

/-- One step. The vendor completes what it was given and has not completed yet. -/
def State.step (cfg : Config) (s : State) : Event → Option State
  | .dispatch req hdr alloc =>
    if s.IsFree req ∧ ∀ currRequest ∈ alloc, s.IsFree currRequest ∧ currRequest ≠ req then
      some ((s.setHeader req hdr).dispatchRequest req hdr alloc)
    else none
  | .complete call e response calloc malloc isOk =>
    if call ∈ s.issued then
      some ({ s with issued := s.issued.erase call }.onRequestComplete cfg call.address e response
        calloc malloc isOk)
    else none
  | .unsolicited token unsolResponse data calloc malloc isOk =>
    some (s.onUnsolicitedResponse cfg token unsolResponse data calloc malloc isOk)

end Sap
end Huashan
