import Huashan.Ril.Dispatch

/-!
# Huashan.Sap.Responses

The second half of `sap_service.cpp`: the messages of the vendor, responses and unsolicited ones,
are decoded by nanopb and given to the callback object of the SIM access profile. One function
does both; it gets the class of the message and looks at it for `DISCONNECT` only.

nanopb is a structure of partial functions, one for each type of message. The codes of its enums
are kept as far as the conversions tell them apart.

`delivered_iff`: an unsolicited message is kept from the callbacks of requests exactly when its id
is none of a request, or it is a `DISCONNECT` that can be decoded.
-/

namespace Huashan
namespace Sap

open Ril (Bytes RilErrno)

inductive MsgId where
  | rilSimSapConnect
  | rilSimSapDisconnect
  | rilSimSapApdu
  | rilSimSapTransferAtr
  | rilSimSapPower
  | rilSimSapResetSim
  | rilSimSapStatus
  | rilSimSapTransferCardReaderStatus
  | rilSimSapErrorResp
  | rilSimSapSetTransferProtocol
  /-- A value that no `case` names. -/
  | other (id : Int32)
  deriving DecidableEq, Repr

inductive MsgType where
  | request
  | response
  | unsolResponse
  deriving DecidableEq, Repr

structure MsgHeader where
  token : Int32
  type : MsgType
  id : MsgId
  error : RilErrno
  payload : Bytes
  deriving DecidableEq, Repr

/-! ## Decoded messages -/

/-- The `Response` enums of the messages. -/
inductive ProtoResponse where
  | rilESuccess
  | rilEGenericFailure
  | rilESimAbsent
  | rilESimNotReady
  | rilESimAlreadyPoweredOff
  | rilESimAlreadyPoweredOn
  | rilESimDataNotAvailable
  /-- A value that no `case` names. -/
  | other (code : Int32)
  deriving DecidableEq, Repr

structure ConnectRsp where
  response : Int32
  maxMessageSize : Int32

structure DisconnectRsp where

structure DisconnectInd where
  disconnectType : Int32

structure ApduRsp where
  response : ProtoResponse
  apduResponse : Option Bytes

structure TransferAtrRsp where
  response : ProtoResponse
  atr : Option Bytes

structure PowerRsp where
  response : ProtoResponse

structure ResetSimRsp where
  response : ProtoResponse

structure StatusInd where
  statusChange : Int32

structure TransferCardReaderStatusRsp where
  response : ProtoResponse
  cardReaderStatus : Int32

structure ErrorRsp where

structure SetTransferProtocolRsp where
  response : ProtoResponse

/-- `pb_decode`, for each of the structures. -/
structure PbDecode where
  connectRsp : Bytes → Option ConnectRsp
  disconnectRsp : Bytes → Option DisconnectRsp
  disconnectInd : Bytes → Option DisconnectInd
  apduRsp : Bytes → Option ApduRsp
  transferAtrRsp : Bytes → Option TransferAtrRsp
  powerRsp : Bytes → Option PowerRsp
  resetSimRsp : Bytes → Option ResetSimRsp
  statusInd : Bytes → Option StatusInd
  transferCardReaderStatusRsp : Bytes → Option TransferCardReaderStatusRsp
  errorRsp : Bytes → Option ErrorRsp
  setTransferProtocolRsp : Bytes → Option SetTransferProtocolRsp

/-- What the messages of an id are decoded to. -/
def Message : MsgId → MsgType → Type
  | .rilSimSapConnect, _ => ConnectRsp
  | .rilSimSapDisconnect, .response => DisconnectRsp
  | .rilSimSapDisconnect, .request => DisconnectInd
  | .rilSimSapDisconnect, .unsolResponse => DisconnectInd
  | .rilSimSapApdu, _ => ApduRsp
  | .rilSimSapTransferAtr, _ => TransferAtrRsp
  | .rilSimSapPower, _ => PowerRsp
  | .rilSimSapResetSim, _ => ResetSimRsp
  | .rilSimSapStatus, _ => StatusInd
  | .rilSimSapTransferCardReaderStatus, _ => TransferCardReaderStatusRsp
  | .rilSimSapErrorResp, _ => ErrorRsp
  | .rilSimSapSetTransferProtocol, _ => SetTransferProtocolRsp
  | .other _, _ => Empty

/-- `none` when the memory for the message is missing, too. -/
def sapDecodeMessage (pb : PbDecode) (malloc : Bool) (payload : Bytes) :
    (msgId : MsgId) → (msgType : MsgType) → Option (Message msgId msgType)
  | .rilSimSapConnect, _ => if malloc then pb.connectRsp payload else none
  | .rilSimSapDisconnect, .response => if malloc then pb.disconnectRsp payload else none
  | .rilSimSapDisconnect, .request => if malloc then pb.disconnectInd payload else none
  | .rilSimSapDisconnect, .unsolResponse => if malloc then pb.disconnectInd payload else none
  | .rilSimSapApdu, _ => if malloc then pb.apduRsp payload else none
  | .rilSimSapTransferAtr, _ => if malloc then pb.transferAtrRsp payload else none
  | .rilSimSapPower, _ => if malloc then pb.powerRsp payload else none
  | .rilSimSapResetSim, _ => if malloc then pb.resetSimRsp payload else none
  | .rilSimSapStatus, _ => if malloc then pb.statusInd payload else none
  | .rilSimSapTransferCardReaderStatus, _ =>
    if malloc then pb.transferCardReaderStatusRsp payload else none
  | .rilSimSapErrorResp, _ => if malloc then pb.errorRsp payload else none
  | .rilSimSapSetTransferProtocol, _ => if malloc then pb.setTransferProtocolRsp payload else none
  | .other _, _ => none

/-! ## The callback object -/

inductive SapResultCode where
  | success
  | genericFailure
  | cardNotAccesssible
  | cardAlreadyPoweredOff
  | cardRemoved
  | cardAlreadyPoweredOn
  | dataNotAvailable
  | notSupported
  deriving DecidableEq, Repr

/-- `SapConnectRsp::CONNECT_FAILURE`. -/
def connectFailure : Int32 := 1

/-- A call of the callback object, its first argument being the token. -/
inductive SapCall where
  | connectResponse (token sapConnectRsp maxMsgSize : Int32)
  | disconnectResponse (token : Int32)
  | disconnectIndication (token disconnectType : Int32)
  | apduResponse (token : Int32) (resultCode : SapResultCode) (apduRsp : Bytes)
  | transferAtrResponse (token : Int32) (resultCode : SapResultCode) (atr : Bytes)
  | powerResponse (token : Int32) (resultCode : SapResultCode)
  | resetSimResponse (token : Int32) (resultCode : SapResultCode)
  | statusIndication (token status : Int32)
  | transferCardReaderStatusResponse (token : Int32) (resultCode : SapResultCode)
      (cardReaderStatus : Int32)
  | errorResponse (token : Int32)
  | transferProtocolResponse (token : Int32) (resultCode : SapResultCode)
  deriving DecidableEq, Repr

structure SapImpl where
  /-- Whether there is a callback object. -/
  sapCallback : Bool
  /-- The calls made to it, the last one first. -/
  calls : List SapCall

def convertApduResponseProtoToHal : ProtoResponse → SapResultCode
  | .rilESuccess => .success
  | .rilEGenericFailure => .genericFailure
  | .rilESimNotReady => .cardNotAccesssible
  | .rilESimAlreadyPoweredOff => .cardAlreadyPoweredOff
  | .rilESimAbsent => .cardRemoved
  | _ => .genericFailure

def convertTransferAtrResponseProtoToHal : ProtoResponse → SapResultCode
  | .rilESuccess => .success
  | .rilEGenericFailure => .genericFailure
  | .rilESimAlreadyPoweredOff => .cardAlreadyPoweredOff
  | .rilESimAbsent => .cardRemoved
  | .rilESimDataNotAvailable => .dataNotAvailable
  | _ => .genericFailure

def convertPowerResponseProtoToHal : ProtoResponse → SapResultCode
  | .rilESuccess => .success
  | .rilEGenericFailure => .genericFailure
  | .rilESimAbsent => .cardRemoved
  | .rilESimAlreadyPoweredOff => .cardAlreadyPoweredOff
  | .rilESimAlreadyPoweredOn => .cardAlreadyPoweredOn
  | _ => .genericFailure

def convertResetSimResponseProtoToHal : ProtoResponse → SapResultCode
  | .rilESuccess => .success
  | .rilEGenericFailure => .genericFailure
  | .rilESimAbsent => .cardRemoved
  | .rilESimNotReady => .cardNotAccesssible
  | .rilESimAlreadyPoweredOff => .cardAlreadyPoweredOff
  | _ => .genericFailure

def convertTransferCardReaderStatusResponseProtoToHal : ProtoResponse → SapResultCode
  | .rilESuccess => .success
  | .rilEGenericFailure => .genericFailure
  | .rilESimDataNotAvailable => .dataNotAvailable
  | _ => .genericFailure

/-- The `switch` of `sendFailedResponse`. -/
def failedResponse (token : Int32) : MsgId → Option SapCall
  | .rilSimSapConnect => some (.connectResponse token connectFailure 0)
  | .rilSimSapDisconnect => some (.disconnectResponse token)
  | .rilSimSapApdu => some (.apduResponse token .genericFailure [])
  | .rilSimSapTransferAtr => some (.transferAtrResponse token .genericFailure [])
  | .rilSimSapPower => some (.powerResponse token .genericFailure)
  | .rilSimSapResetSim => some (.resetSimResponse token .genericFailure)
  | .rilSimSapTransferCardReaderStatus =>
    some (.transferCardReaderStatusResponse token .genericFailure 0)
  | .rilSimSapSetTransferProtocol => some (.transferProtocolResponse token .notSupported)
  | _ => none

/-- The `switch` of `processResponse`. -/
def decodedResponse (token : Int32) :
    (msgId : MsgId) → (msgType : MsgType) → Message msgId msgType → Option SapCall
  | .rilSimSapConnect, _, (connectRsp : ConnectRsp) =>
    some (.connectResponse token connectRsp.response connectRsp.maxMessageSize)
  | .rilSimSapDisconnect, .response, _ => some (.disconnectResponse token)
  | .rilSimSapDisconnect, .request, (disconnectInd : DisconnectInd) =>
    some (.disconnectIndication token disconnectInd.disconnectType)
  | .rilSimSapDisconnect, .unsolResponse, (disconnectInd : DisconnectInd) =>
    some (.disconnectIndication token disconnectInd.disconnectType)
  | .rilSimSapApdu, _, (apduRsp : ApduRsp) =>
    some (.apduResponse token (convertApduResponseProtoToHal apduRsp.response)
      (apduRsp.apduResponse.getD []))
  | .rilSimSapTransferAtr, _, (transferAtrRsp : TransferAtrRsp) =>
    some (.transferAtrResponse token (convertTransferAtrResponseProtoToHal transferAtrRsp.response)
      (transferAtrRsp.atr.getD []))
  | .rilSimSapPower, _, (powerRsp : PowerRsp) =>
    some (.powerResponse token (convertPowerResponseProtoToHal powerRsp.response))
  | .rilSimSapResetSim, _, (resetSimRsp : ResetSimRsp) =>
    some (.resetSimResponse token (convertResetSimResponseProtoToHal resetSimRsp.response))
  | .rilSimSapStatus, _, (statusInd : StatusInd) =>
    some (.statusIndication token statusInd.statusChange)
  | .rilSimSapTransferCardReaderStatus, _, (transferStatusRsp : TransferCardReaderStatusRsp) =>
    some (.transferCardReaderStatusResponse token
      (convertTransferCardReaderStatusResponseProtoToHal transferStatusRsp.response)
      transferStatusRsp.cardReaderStatus)
  | .rilSimSapErrorResp, _, _ => some (.errorResponse token)
  | .rilSimSapSetTransferProtocol, _, (setTransferProtocolRsp : SetTransferProtocolRsp) =>
    some (.transferProtocolResponse token
      (if setTransferProtocolRsp.response = .rilESuccess then .success else .notSupported))
  | .other _, _, _ => none

namespace SapImpl

def checkReturnStatus (s : SapImpl) (isOk : Bool) : SapImpl :=
  if isOk = false then { s with sapCallback := false } else s

/-- A call of the callback object, if there is one to make. -/
def invoke (s : SapImpl) (call : Option SapCall) (isOk : Bool) : SapImpl :=
  match call with
  | some call => { s with calls := call :: s.calls }.checkReturnStatus isOk
  | none => s

/-- Without a callback object it crashes. -/
def sendFailedResponse (s : SapImpl) (msgId : MsgId) (token : Int32) (isOk : Bool) : SapImpl :=
  if s.sapCallback then s.invoke (failedResponse token msgId) isOk else s

/-- Both classes of messages. `malloc` is the outcome of the allocation for the decoded message and
`isOk` that of the HIDL call. -/
def processMessage (pb : PbDecode) (s : SapImpl) (rsp : MsgHeader) (msgType : MsgType)
    (malloc isOk : Bool) : SapImpl :=
  let message := sapDecodeMessage pb malloc rsp.payload rsp.id msgType
  if s.sapCallback = false then s
  else
    match message with
    | none => s.sendFailedResponse rsp.id rsp.token isOk
    | some message => s.invoke (decodedResponse rsp.token rsp.id msgType message) isOk

/-- `sap::processResponse`. -/
def processResponse (pb : PbDecode) (s : SapImpl) (rsp : MsgHeader) (malloc isOk : Bool) :
    SapImpl :=
  s.processMessage pb rsp .response malloc isOk

/-- `sap::processUnsolResponse`. -/
def processUnsolResponse (pb : PbDecode) (s : SapImpl) (rsp : MsgHeader) (malloc isOk : Bool) :
    SapImpl :=
  s.processMessage pb rsp .unsolResponse malloc isOk

end SapImpl

/-! ## Which request a call answers -/

/-- The ids of requests. -/
def MsgId.isSolicited : MsgId → Bool
  | .rilSimSapStatus => false
  | .rilSimSapErrorResp => false
  | .other _ => false
  | _ => true

/-- The id and the token of the request that a solicited callback answers. -/
def SapCall.answers : SapCall → Option (MsgId × Int32)
  | .connectResponse token _ _ => some (.rilSimSapConnect, token)
  | .disconnectResponse token => some (.rilSimSapDisconnect, token)
  | .disconnectIndication _ _ => none
  | .apduResponse token _ _ => some (.rilSimSapApdu, token)
  | .transferAtrResponse token _ _ => some (.rilSimSapTransferAtr, token)
  | .powerResponse token _ => some (.rilSimSapPower, token)
  | .resetSimResponse token _ => some (.rilSimSapResetSim, token)
  | .statusIndication _ _ => none
  | .transferCardReaderStatusResponse token _ _ => some (.rilSimSapTransferCardReaderStatus, token)
  | .errorResponse _ => none
  | .transferProtocolResponse token _ => some (.rilSimSapSetTransferProtocol, token)

theorem failedResponse_solicited (token : Int32) {msgId : MsgId} (h : msgId.isSolicited = true) :
    ∃ call, failedResponse token msgId = some call ∧ call.answers = some (msgId, token) := by
  cases msgId with
  | rilSimSapStatus => cases h
  | rilSimSapErrorResp => cases h
  | other id => cases h
  | _ => exact ⟨_, rfl, rfl⟩

theorem failedResponse_unsolicited (token : Int32) {msgId : MsgId} (h : msgId.isSolicited = false) :
    failedResponse token msgId = none := by
  cases msgId with
  | rilSimSapStatus => rfl
  | rilSimSapErrorResp => rfl
  | other id => rfl
  | _ => cases h

/-- A message that is decoded is given to the callback of its id. -/
theorem decodedResponse_solicited (token : Int32) {msgId : MsgId} {msgType : MsgType}
    (h : msgId.isSolicited = true)
    (htype : msgId = .rilSimSapDisconnect → msgType = .response) (message : Message msgId msgType) :
    ∃ call, decodedResponse token msgId msgType message = some call ∧
      call.answers = some (msgId, token) := by
  cases msgId with
  | rilSimSapStatus => cases h
  | rilSimSapErrorResp => cases h
  | other id => cases h
  | rilSimSapDisconnect =>
    cases htype rfl
    exact ⟨_, rfl, rfl⟩
  | _ => exact ⟨_, rfl, rfl⟩

theorem decodedResponse_unsolicited (token : Int32) {msgId : MsgId} (msgType : MsgType)
    (h : msgId.isSolicited = false) (message : Message msgId msgType) :
    ∀ call ∈ decodedResponse token msgId msgType message, call.answers = none := by
  intro call hcall
  cases msgId with
  | rilSimSapStatus =>
    cases hcall
    rfl
  | rilSimSapErrorResp =>
    cases hcall
    rfl
  | other id => cases message
  | _ => cases h

namespace SapImpl

/-- The only calls made in between are no callbacks of requests. -/
def Unanswered (s t : SapImpl) : Prop :=
  ∃ new, t.calls = new ++ s.calls ∧ ∀ call ∈ new, call.answers = none

/-- The only call made in between is the callback of this request. -/
def AnsweredOnce (s t : SapImpl) (msgId : MsgId) (token : Int32) : Prop :=
  ∃ call, t.calls = call :: s.calls ∧ call.answers = some (msgId, token)

theorem calls_invoke (s : SapImpl) (call : Option SapCall) (isOk : Bool) :
    (s.invoke call isOk).calls = call.toList ++ s.calls := by
  cases call with
  | none => rfl
  | some call => cases isOk <;> rfl

theorem answeredOnce_invoke {s : SapImpl} {call : SapCall} {msgId : MsgId} {token : Int32}
    (h : call.answers = some (msgId, token)) (isOk : Bool) :
    s.AnsweredOnce (s.invoke (some call) isOk) msgId token :=
  ⟨call, calls_invoke s (some call) isOk, h⟩

theorem unanswered_invoke {s : SapImpl} {call : Option SapCall}
    (h : ∀ c ∈ call, c.answers = none) (isOk : Bool) : s.Unanswered (s.invoke call isOk) :=
  ⟨call.toList, calls_invoke s call isOk, fun c hc => h c (Option.mem_toList.mp hc)⟩

theorem AnsweredOnce.not_unanswered {s t : SapImpl} {msgId : MsgId} {token : Int32}
    (h : s.AnsweredOnce t msgId token) : ¬s.Unanswered t := by
  rintro ⟨new, hnew, hnone⟩
  obtain ⟨call, hcalls, hcall⟩ := h
  have hsame : new = [call] := List.append_cancel_right (hnew.symm.trans hcalls)
  have hanswers := hnone call (hsame ▸ List.mem_singleton.mpr rfl)
  rw [hcall] at hanswers
  cases hanswers

section Delivery

variable (pb : PbDecode) {s : SapImpl} (hs : s.sapCallback = true) (rsp : MsgHeader)
  (malloc isOk : Bool)

include hs

theorem processMessage_eq (msgType : MsgType) : s.processMessage pb rsp msgType malloc isOk =
    s.invoke (match sapDecodeMessage pb malloc rsp.payload rsp.id msgType with
      | none => failedResponse rsp.token rsp.id
      | some message => decodedResponse rsp.token rsp.id msgType message) isOk := by
  unfold processMessage sendFailedResponse
  rw [if_neg (by rw [hs]; exact Bool.true_eq_false.mp), if_pos hs]
  split <;> rfl

/-- A message of a request's id is taken for its answer, unless it is a `DISCONNECT` that is no
response and can be decoded. -/
theorem processMessage_solicited {msgType : MsgType} (hid : rsp.id.isSolicited = true)
    (hdecoded : rsp.id = .rilSimSapDisconnect → msgType = .response ∨
      sapDecodeMessage pb malloc rsp.payload rsp.id msgType = none) :
    s.AnsweredOnce (s.processMessage pb rsp msgType malloc isOk) rsp.id rsp.token := by
  rw [processMessage_eq pb hs]
  split
  · obtain ⟨call, hcall, hanswers⟩ := failedResponse_solicited rsp.token hid
    rw [hcall]
    exact answeredOnce_invoke hanswers isOk
  · next message hmessage =>
    obtain ⟨call, hcall, hanswers⟩ := decodedResponse_solicited rsp.token hid
      (fun h => (hdecoded h).resolve_right (by rw [hmessage]; simp)) message
    rw [hcall]
    exact answeredOnce_invoke hanswers isOk

theorem processMessage_unsolicited (msgType : MsgType) (hid : rsp.id.isSolicited = false) :
    s.Unanswered (s.processMessage pb rsp msgType malloc isOk) := by
  rw [processMessage_eq pb hs]
  split
  · rw [failedResponse_unsolicited rsp.token hid]
    exact unanswered_invoke (fun c hc => by cases hc) isOk
  · next message _ =>
    exact unanswered_invoke (decodedResponse_unsolicited rsp.token msgType hid message) isOk

/-- A `DISCONNECT` that can be decoded as an indication is one. -/
theorem processUnsolResponse_disconnect (hid : rsp.id = .rilSimSapDisconnect)
    (hmalloc : malloc = true) {ind : DisconnectInd}
    (hind : pb.disconnectInd rsp.payload = some ind) :
    s.Unanswered (s.processUnsolResponse pb rsp malloc isOk) := by
  obtain ⟨token, type, id, error, payload⟩ := rsp
  cases hid
  have hmessage : sapDecodeMessage pb malloc payload .rilSimSapDisconnect .unsolResponse =
      some ind := by
    subst hmalloc
    exact hind
  unfold processUnsolResponse
  rw [processMessage_eq pb hs]
  simp only [hmessage]
  refine unanswered_invoke (fun call hcall => ?_) isOk
  cases hcall
  rfl

/-- An unsolicited message makes no callback of a request, and a response makes exactly the one of
its request, exactly when the id is none of a request or the message is a `DISCONNECT` that can be
decoded as an indication. -/
theorem delivered_iff :
    (s.Unanswered (s.processUnsolResponse pb rsp malloc isOk) ∧
      (rsp.id.isSolicited = true →
        s.AnsweredOnce (s.processResponse pb rsp malloc isOk) rsp.id rsp.token)) ↔
    (rsp.id.isSolicited = false ∨
      (rsp.id = .rilSimSapDisconnect ∧ malloc = true ∧ (pb.disconnectInd rsp.payload).isSome)) := by
  have hresponse : rsp.id.isSolicited = true →
      s.AnsweredOnce (s.processResponse pb rsp malloc isOk) rsp.id rsp.token := fun hid =>
    processMessage_solicited pb hs rsp malloc isOk hid fun _ => .inl rfl
  rw [and_iff_left hresponse]
  constructor
  · intro hunanswered
    cases hid : rsp.id.isSolicited with
    | false => exact .inl rfl
    | true =>
      right
      by_contra hcond
      refine AnsweredOnce.not_unanswered
        (processMessage_solicited pb hs rsp malloc isOk hid fun hdisconnect => .inr ?_) hunanswered
      rw [hdisconnect]
      -- otherwise the indication was decoded
      cases malloc with
      | false => rfl
      | true =>
        exact Option.not_isSome_iff_eq_none.mp fun hsome => hcond ⟨hdisconnect, rfl, hsome⟩
  · rintro (hid | ⟨hid, hmalloc, hsome⟩)
    · exact processMessage_unsolicited pb hs rsp malloc isOk _ hid
    · obtain ⟨ind, hind⟩ := Option.isSome_iff_exists.mp hsome
      exact processUnsolResponse_disconnect pb hs rsp malloc isOk hid hmalloc hind

end Delivery

/-- nanopb on the empty payload, which lacks the required fields of most messages, on a
`DISCONNECT` indication, and on bytes that are no message. -/
def requiredFields : PbDecode where
  connectRsp := fun _ => none
  disconnectRsp := fun payload => if payload = [] then some {} else none
  disconnectInd := fun payload => if payload = [8, 0] then some ⟨0⟩ else none
  apduRsp := fun _ => none
  transferAtrRsp := fun _ => none
  powerRsp := fun _ => none
  resetSimRsp := fun _ => none
  statusInd := fun _ => none
  transferCardReaderStatusRsp := fun _ => none
  errorRsp := fun payload => if payload = [] then some {} else none
  setTransferProtocolRsp := fun _ => none

theorem indication_delivered :
    Unanswered ⟨true, []⟩ (processUnsolResponse requiredFields ⟨true, []⟩
      ⟨7, .unsolResponse, .rilSimSapDisconnect, 0, [8, 0]⟩ true true) :=
  ((delivered_iff requiredFields (s := ⟨true, []⟩) rfl
    ⟨7, .unsolResponse, .rilSimSapDisconnect, 0, [8, 0]⟩ true true).mpr
      (.inr ⟨rfl, rfl, rfl⟩)).1

/-- An indication whose first byte is not the end of a tag, and the last one of the payload, is
answered with `disconnectResponse`. -/
theorem indication_answered :
    ¬∀ (pb : PbDecode) (s : SapImpl) (rsp : MsgHeader) (malloc isOk : Bool),
      s.sapCallback = true →
      s.Unanswered (s.processUnsolResponse pb rsp malloc isOk) ∧
        (rsp.id.isSolicited = true →
          s.AnsweredOnce (s.processResponse pb rsp malloc isOk) rsp.id rsp.token) := by
  intro h
  obtain ⟨⟨new, hnew, hnone⟩, _⟩ := h requiredFields ⟨true, []⟩
    ⟨7, .unsolResponse, .rilSimSapDisconnect, 0, [0xff]⟩ true true rfl
  have hcall : new = [.disconnectResponse 7] := (List.append_nil new).symm.trans hnew.symm
  have hanswers := hnone (.disconnectResponse 7) (hcall ▸ List.mem_singleton.mpr rfl)
  cases hanswers

end SapImpl
end Sap
end Huashan
