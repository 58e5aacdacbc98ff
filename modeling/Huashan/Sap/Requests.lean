import Huashan.Sap.Socket

/-!
# Huashan.Sap.Requests

The first half of `sap_service.cpp`: the requests of the SIM access profile are encoded by nanopb
and dispatched to the socket. The length of the encoded request goes through the 16 bits of
`reqLen`.

`handedWhole_iff`: the vendor gets the whole encoded request exactly when its length fits them, or
when it gets nothing because memory, the socket or the vendor's functions are missing.
-/

namespace Huashan
namespace Sap

open Ril (Bytes)

/-- The structures that requests are encoded from. -/
inductive ReqMessage where
  | connectReq (maxMessageSize : Int32)
  | disconnectReq
  | apduReq (type : Int32) (command : Option Bytes)
  | transferAtrReq
  | powerReq (state : Bool)
  | resetSimReq
  | transferCardReaderStatusReq
  | setTransferProtocolReq (protocol : Int32)

/-- `pb_get_encoded_size`, and the bytes that `pb_encode` writes to a buffer of a size. -/
structure PbEncode where
  getEncodedSize : ReqMessage → Option Nat
  encode : ReqMessage → Nat → Option Bytes

/-- What is written to a buffer of the encoded size, when encoding succeeds. -/
def PbEncode.encoded (pb : PbEncode) (req : ReqMessage) : Option Bytes :=
  (pb.getEncodedSize req).bind (pb.encode req)

/-- The outcomes of what a request calls. -/
structure Outcomes where
  /-- The memory for the `MsgHeader`. -/
  msg : Option Nat
  /-- Whether there is memory for `req.command`, the buffer and the payload. -/
  command : Bool
  buffer : Bool
  payload : Bool
  /-- Whether `getSocketById` finds the socket. -/
  sapSocket : Bool
  /-- The memory for the `SapSocketRequest`. -/
  currRequest : Option Nat
  /-- Of the HIDL call that reports a failure. -/
  isOk : Bool

def createMsgHeader (msgId : MsgId) (token : Int32) : MsgHeader :=
  ⟨token, .request, msgId, Ril.rilESuccess, []⟩

namespace State

/-- `sendFailedResponse` and return; the header is freed. -/
def failRequest (s : State) (msgId : MsgId) (token : Int32) (o : Outcomes) : State :=
  { s with sapImpl := s.sapImpl.sendFailedResponse msgId token o.isOk }

/-- `address` is that of `msg`. -/
def addPayloadAndDispatchRequest (s : State) (address : Nat) (msg : MsgHeader) (reqLen : UInt16)
    (reqPtr : Bytes) (o : Outcomes) : State :=
  if !o.payload then s.failRequest msg.id msg.token o
  else
    let msg := { msg with payload := reqPtr.take reqLen.toNat }
    if o.sapSocket then
      (s.setHeader address msg).dispatchRequest address msg o.currRequest
    else s.failRequest msg.id msg.token o

variable (pb : PbEncode) (s : State) (token : Int32) (o : Outcomes)

/-- What the eight requests have in common. -/
def encodeRequest (msgId : MsgId) (req : ReqMessage) : State :=
  match o.msg with
  | none => s.failRequest msgId token o
  | some address =>
    match pb.getEncodedSize req with
    | none => s.failRequest msgId token o
    | some encodedSize =>
      if !o.buffer then s.failRequest msgId token o
      else
        match pb.encode req encodedSize with
        | none => s.failRequest msgId token o
        | some buffer => s.addPayloadAndDispatchRequest address (createMsgHeader msgId token)
            (UInt16.ofNat buffer.length) buffer o

def connectReq (maxMsgSize : Int32) : State :=
  s.encodeRequest pb token o .rilSimSapConnect (.connectReq maxMsgSize)

def disconnectReq : State := s.encodeRequest pb token o .rilSimSapDisconnect .disconnectReq

/-- The command is copied before the request is encoded. -/
def apduReq (type : Int32) (command : Bytes) : State :=
  if command.length > 0 then
    if o.msg.isSome && !o.command then s.failRequest .rilSimSapApdu token o
    else s.encodeRequest pb token o .rilSimSapApdu (.apduReq type (some command))
  else s.encodeRequest pb token o .rilSimSapApdu (.apduReq type none)

def transferAtrReq : State := s.encodeRequest pb token o .rilSimSapTransferAtr .transferAtrReq

def powerReq (state : Bool) : State :=
  s.encodeRequest pb token o .rilSimSapPower (.powerReq state)

def resetSimReq : State := s.encodeRequest pb token o .rilSimSapResetSim .resetSimReq

def transferCardReaderStatusReq : State :=
  s.encodeRequest pb token o .rilSimSapTransferCardReaderStatus .transferCardReaderStatusReq

def setTransferProtocolReq (transferProtocol : Int32) : State :=
  s.encodeRequest pb token o .rilSimSapSetTransferProtocol
    (.setTransferProtocolReq transferProtocol)

end State

/-- A request of the framework. -/
inductive HidlRequest where
  | connectReq (maxMsgSize : Int32)
  | disconnectReq
  | apduReq (type : Int32) (command : Bytes)
  | transferAtrReq
  | powerReq (state : Bool)
  | resetSimReq
  | transferCardReaderStatusReq
  | setTransferProtocolReq (transferProtocol : Int32)

namespace HidlRequest

def run (pb : PbEncode) (s : State) (token : Int32) (o : Outcomes) : HidlRequest → State
  | .connectReq maxMsgSize => s.connectReq pb token o maxMsgSize
  | .disconnectReq => s.disconnectReq pb token o
  | .apduReq type command => s.apduReq pb token o type command
  | .transferAtrReq => s.transferAtrReq pb token o
  | .powerReq state => s.powerReq pb token o state
  | .resetSimReq => s.resetSimReq pb token o
  | .transferCardReaderStatusReq => s.transferCardReaderStatusReq pb token o
  | .setTransferProtocolReq transferProtocol => s.setTransferProtocolReq pb token o transferProtocol

def msgId : HidlRequest → MsgId
  | .connectReq _ => .rilSimSapConnect
  | .disconnectReq => .rilSimSapDisconnect
  | .apduReq _ _ => .rilSimSapApdu
  | .transferAtrReq => .rilSimSapTransferAtr
  | .powerReq _ => .rilSimSapPower
  | .resetSimReq => .rilSimSapResetSim
  | .transferCardReaderStatusReq => .rilSimSapTransferCardReaderStatus
  | .setTransferProtocolReq _ => .rilSimSapSetTransferProtocol

/-- What is encoded for a request. -/
def message : HidlRequest → ReqMessage
  | .connectReq maxMsgSize => .connectReq maxMsgSize
  | .disconnectReq => .disconnectReq
  | .apduReq type command => .apduReq type (if command.length > 0 then some command else none)
  | .transferAtrReq => .transferAtrReq
  | .powerReq state => .powerReq state
  | .resetSimReq => .resetSimReq
  | .transferCardReaderStatusReq => .transferCardReaderStatusReq
  | .setTransferProtocolReq transferProtocol => .setTransferProtocolReq transferProtocol

/-- Whether a request has a command to copy. -/
def hasCommand : HidlRequest → Bool
  | .apduReq _ command => decide (command.length > 0)
  | _ => false

/-- The memory, the socket and the vendor's functions that a request needs are there. -/
structure Reaches (r : HidlRequest) (s : State) (o : Outcomes) : Prop where
  msg : o.msg.isSome
  command : r.hasCommand = true → o.command = true
  buffer : o.buffer = true
  payload : o.payload = true
  sapSocket : o.sapSocket = true
  currRequest : o.currRequest.isSome
  uimFuncs : s.uimFuncs = true

/-- What is handed to the vendor for the request is what was encoded. -/
def HandedWhole (r : HidlRequest) (pb : PbEncode) (s : State) (token : Int32) (o : Outcomes) :
    Prop :=
  ∀ buffer, pb.encoded r.message = some buffer →
    ∀ call, (r.run pb s token o).issued = call :: s.issued → call.payload = buffer

/-! ## What a request does -/

variable {pb : PbEncode} {s : State} {token : Int32} {o : Outcomes}

/-- The header with the part of the request that is dispatched. -/
def dispatched (r : HidlRequest) (token : Int32) (buffer : Bytes) : MsgHeader :=
  { createMsgHeader r.msgId token with payload := buffer.take (buffer.length % 2 ^ 16) }

theorem run_eq (r : HidlRequest) : r.run pb s token o =
    if o.msg.isSome && r.hasCommand && !o.command then s.failRequest r.msgId token o
    else s.encodeRequest pb token o r.msgId r.message := by
  cases r with
  | apduReq type command =>
    unfold run State.apduReq hasCommand message msgId
    by_cases hlength : command.length > 0
    · simp only [hlength, decide_true, if_true, Bool.and_true]
    · simp only [hlength, decide_false, if_false, Bool.and_false, Bool.false_and,
        Bool.false_eq_true]
  | _ => simp [run, hasCommand, State.connectReq, State.disconnectReq, State.transferAtrReq,
      State.powerReq, State.resetSimReq, State.transferCardReaderStatusReq,
      State.setTransferProtocolReq, msgId, message]

/-- A request fails, or it is dispatched with its encoding cut to the length that is left of it. -/
theorem run_cases (r : HidlRequest) (pb : PbEncode) (s : State) (token : Int32) (o : Outcomes) :
    r.run pb s token o = s.failRequest r.msgId token o ∨
    ∃ address buffer, o.msg = some address ∧ (r.hasCommand = true → o.command = true) ∧
      o.buffer = true ∧ o.payload = true ∧ o.sapSocket = true ∧
      pb.encoded r.message = some buffer ∧ r.run pb s token o =
        (s.setHeader address (r.dispatched token buffer)).dispatchRequest address
          (r.dispatched token buffer) o.currRequest := by
  rw [run_eq]
  split
  · exact .inl rfl
  next hcommand =>
  unfold State.encodeRequest
  split
  · exact .inl rfl
  next address hmsg =>
  split
  · exact .inl rfl
  next encodedSize hsize =>
  split
  · exact .inl rfl
  next hbuffer =>
  split
  · exact .inl rfl
  next buffer hencode =>
  unfold State.addPayloadAndDispatchRequest
  split
  · exact .inl rfl
  next hpayload =>
  simp only
  split
  · next hsocket =>
    refine .inr ⟨address, buffer, hmsg, ?_, by simpa using hbuffer, by simpa using hpayload,
      hsocket, by rw [PbEncode.encoded, hsize]; exact hencode, rfl⟩
    intro hhas
    simpa [hmsg, hhas] using hcommand
  · exact .inl rfl

theorem issued_dispatchRequest (s : State) (req : Nat) (hdr : MsgHeader) (alloc : Option Nat) :
    (s.dispatchRequest req hdr alloc).issued =
      match alloc with
      | none => s.issued
      | some currRequest =>
        if s.uimFuncs then ⟨currRequest, hdr.id, hdr.payload⟩ :: s.issued else s.issued := by
  cases alloc with
  | none => rfl
  | some currRequest =>
    unfold State.dispatchRequest State.enqueue
    simp only
    split <;> rfl

/-- The vendor gets the encoded request cut to the length that is left of it, if anything. -/
theorem issued_run (r : HidlRequest) {buffer : Bytes}
    (hencoded : pb.encoded r.message = some buffer) {call : Issued}
    (hcall : (r.run pb s token o).issued = call :: s.issued) :
    r.Reaches s o ∧ call.payload = buffer.take (buffer.length % 2 ^ 16) := by
  have hne : s.issued ≠ call :: s.issued := fun h => List.cons_ne_self _ _ h.symm
  obtain hrun | ⟨address, buffer', hmsg, hcommand, hbuffer, hpayload, hsocket, hencoded', hrun⟩ :=
    r.run_cases pb s token o
  · rw [hrun] at hcall
    exact absurd hcall hne
  · cases hencoded.symm.trans hencoded'
    rw [hrun, issued_dispatchRequest] at hcall
    split at hcall
    · exact absurd hcall hne
    · next currRequest hcurr =>
      split at hcall
      · next huim =>
        refine ⟨⟨by rw [hmsg]; rfl, hcommand, hbuffer, hpayload, hsocket, by rw [hcurr]; rfl,
          huim⟩, ?_⟩
        cases hcall
        rfl
      · exact absurd hcall hne

/-- A request that lacks nothing is handed to the vendor. -/
theorem Reaches.issued {r : HidlRequest} (h : r.Reaches s o) {buffer : Bytes}
    (hencoded : pb.encoded r.message = some buffer) (token : Int32) :
    ∃ call, (r.run pb s token o).issued = call :: s.issued := by
  obtain ⟨address, hmsg⟩ := Option.isSome_iff_exists.mp h.msg
  obtain ⟨currRequest, hcurr⟩ := Option.isSome_iff_exists.mp h.currRequest
  obtain ⟨encodedSize, hsize, hencode⟩ := Option.bind_eq_some_iff.mp hencoded
  have hcommand : (o.msg.isSome && r.hasCommand && !o.command) = false := by
    cases hhas : r.hasCommand with
    | false => simp
    | true => simp [h.command hhas]
  refine ⟨⟨currRequest, r.msgId, buffer.take (buffer.length % 2 ^ 16)⟩, ?_⟩
  rw [run_eq, hcommand, if_neg Bool.false_ne_true]
  unfold State.encodeRequest State.addPayloadAndDispatchRequest
  simp only [hmsg, hsize, hencode, h.buffer, h.payload, h.sapSocket, Bool.not_true,
    Bool.false_eq_true, if_false, if_true]
  rw [issued_dispatchRequest, hcurr]
  exact if_pos h.uimFuncs

theorem take_length_mod_eq_iff (buffer : Bytes) :
    buffer.take (buffer.length % 2 ^ 16) = buffer ↔ buffer.length < 2 ^ 16 := by
  rw [List.take_eq_self_iff]
  constructor
  · intro h
    exact lt_of_le_of_lt h (Nat.mod_lt _ (by decide))
  · intro h
    rw [Nat.mod_eq_of_lt h]

/-- The vendor gets the whole encoded request, if any, exactly when its length fits 16 bits or
something keeps the request from the vendor. -/
theorem handedWhole_iff (r : HidlRequest) (pb : PbEncode) (s : State) (token : Int32)
    (o : Outcomes) : r.HandedWhole pb s token o ↔
      ∀ buffer, pb.encoded r.message = some buffer → buffer.length < 2 ^ 16 ∨ ¬r.Reaches s o := by
  refine forall_congr' fun buffer => forall_congr' fun hencoded => ?_
  constructor
  · intro h
    by_cases hreaches : r.Reaches s o
    · obtain ⟨call, hcall⟩ := hreaches.issued hencoded token
      have hpayload := (r.issued_run hencoded hcall).2
      rw [h call hcall] at hpayload
      exact .inl ((take_length_mod_eq_iff buffer).mp hpayload.symm)
    · exact .inr hreaches
  · intro h call hcall
    obtain ⟨hreaches, hpayload⟩ := r.issued_run hencoded hcall
    rw [hpayload]
    exact (take_length_mod_eq_iff buffer).mpr (h.resolve_right (not_not.mpr hreaches))

/-- A number in groups of seven bits. -/
def varint (n : Nat) : Bytes :=
  if n < 128 then [UInt8.ofNat n] else UInt8.ofNat (128 + n % 128) :: varint (n / 128)

/-- nanopb on `APDU` requests of type 0 with a command. -/
def apduEncode : PbEncode where
  getEncodedSize
    | .apduReq 0 (some command) => some (3 + (varint command.length).length + command.length)
    | _ => none
  encode
    | .apduReq 0 (some command), _ => some ([0x08, 0x00, 0x12] ++ varint command.length ++ command)
    | _, _ => none

/-- Of a command of 70000 bytes, only the rest of its length modulo 65536 is handed on. -/
theorem apdu_cut : ¬∀ (r : HidlRequest) (pb : PbEncode) (s : State) (token : Int32) (o : Outcomes),
    r.HandedWhole pb s token o := by
  intro h
  let r : HidlRequest := .apduReq 0 (List.replicate 70000 0)
  let o : Outcomes := ⟨some 1, true, true, true, true, some 2, true⟩
  have hreaches : r.Reaches (.init true ⟨true, []⟩) o :=
    ⟨rfl, fun _ => rfl, rfl, rfl, rfl, rfl, rfl⟩
  have hmessage : r.message = .apduReq 0 (some (List.replicate 70000 0)) := by
    simp only [r, message, List.length_replicate, gt_iff_lt, Nat.ofNat_pos, if_true]
  obtain ⟨buffer, hencoded, hlength⟩ : ∃ buffer, apduEncode.encoded r.message = some buffer ∧
      2 ^ 16 ≤ buffer.length := by
    rw [hmessage]
    refine ⟨_, rfl, ?_⟩
    simp only [List.length_append, List.length_replicate]
    omega
  obtain ⟨call, hcall⟩ := hreaches.issued hencoded 7
  have hwhole := h r apduEncode _ 7 o buffer hencoded call hcall
  rw [(r.issued_run hencoded hcall).2, take_length_mod_eq_iff] at hwhole
  omega

end HidlRequest
end Sap
end Huashan
