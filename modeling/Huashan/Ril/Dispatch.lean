import Mathlib

/-!
# Huashan.Ril.Dispatch

The dispatch functions of `ril_service.cpp`: how the arguments of a HIDL request are converted for
the vendor's `onRequest`. A conversion either gives the payload or leaves with the error of the
`sendErrorResponse` it makes, which always is the last thing it does.

Allocations take their outcomes from a list, one for each `calloc` of the source; past its end
they succeed. A HIDL string is its bytes; `cStr` is what `c_str()` shows of it.
-/

namespace Huashan
namespace Ril

abbrev Bytes := List UInt8

/-- `RIL_Errno` by its value. -/
abbrev RilErrno := Int32

def rilESuccess : RilErrno := 0
def rilERequestNotSupported : RilErrno := 6
def rilENoMemory : RilErrno := 37
def rilEInternalErr : RilErrno := 38
def rilEInvalidArguments : RilErrno := 44

/-- What `onRequest` receives. For a RIL structure: its numbers and its strings, in the order in
which the code fills them. -/
inductive Payload where
  | void
  | string (str : Option Bytes)
  | strings (strs : List (Option Bytes))
  | ints (ints : List Int)
  | raw (bytes : Bytes)
  | struct (numbers : List Int) (strs : List (Option Bytes))
  deriving DecidableEq, Repr

/-- A conversion of arguments, over the outcomes of its allocations. -/
abbrev Conv := StateT (List Bool) (Except RilErrno)

namespace Conv

/-- `sendErrorResponse` and return. -/
def fail {α : Type} (e : RilErrno) : Conv α := fun _ => .error e

/-- A `calloc` that is answered with `RIL_E_NO_MEMORY` when it fails. -/
def allocate : Conv Unit := fun outcomes =>
  match outcomes with
  | [] => .ok ((), [])
  | true :: rest => .ok ((), rest)
  | false :: _ => .error rilENoMemory

def check (ok : Bool) (e : RilErrno) : Conv Unit := if ok then pure () else fail e

end Conv

open Conv

/-! ## Strings -/

def cStr (s : Bytes) : Bytes := s.takeWhile (· != 0)

def copyHidlStringToRil (src : Bytes) (allowEmpty : Bool) : Conv (Option Bytes) := do
  let len := src.length
  if len = 0 ∧ ¬ allowEmpty then return none
  allocate
  if (cStr src).length ≥ len + 1 then fail rilEInternalErr
  return some (cStr src)

/-- `std::to_string`. -/
def toDecimal (n : Int) : Bytes := (toString n).toList.map fun c => UInt8.ofNat c.toNat

/-! ## HIDL structures -/

structure CallForwardInfo where
  status : Int
  reason : Int
  serviceClass : Int
  toa : Int
  number : Bytes
  timeSeconds : Int

structure SimApdu where
  sessionId : Int
  cla : Int
  instruction : Int
  p1 : Int
  p2 : Int
  p3 : Int
  data : Bytes

structure UusInfo where
  uusType : Int
  uusDcs : Int
  uusData : Bytes

structure Dial where
  address : Bytes
  clir : Int
  uusInfo : List UusInfo

inductive MvnoType where
  | none
  | imsi
  | gid
  | spn
  /-- A value outside the enumeration. -/
  | other
  deriving DecidableEq, Repr

structure DataProfileInfo where
  profileId : Int
  apn : Bytes
  protocol : Bytes
  roamingProtocol : Bytes
  authType : Int
  user : Bytes
  password : Bytes
  type : Int
  maxConnsTime : Int
  maxConns : Int
  waitTime : Int
  enabled : Bool
  supportedApnTypesBitmap : Int
  bearerBitmap : Int
  mtu : Int
  mvnoType : MvnoType
  mvnoMatchData : Bytes

structure IccIo where
  command : Int
  fileId : Int
  path : Bytes
  p1 : Int
  p2 : Int
  p3 : Int
  data : Bytes
  pin2 : Bytes
  aid : Bytes

structure RadioAccessSpecifier where
  radioAccessNetwork : Int
  geranBands : List Int
  utranBands : List Int
  eutranBands : List Int
  channels : List Int

structure NetworkScanRequest where
  type : Int
  interval : Int
  specifiers : List RadioAccessSpecifier

structure SmsWriteArgs where
  status : Int
  pdu : Bytes
  smsc : Bytes

structure GsmSmsMessage where
  smscPdu : Bytes
  pdu : Bytes

/-- A CDMA message is kept as the numbers `constructCdmaSms` copies. -/
structure ImsSmsMessage where
  tech : Int
  retry : Bool
  messageRef : Int
  cdmaMessage : List (List Int)
  gsmMessage : List GsmSmsMessage

structure Carrier where
  mcc : Bytes
  mnc : Bytes
  matchType : Int
  matchData : Bytes

structure CarrierRestrictions where
  allowedCarriers : List Carrier
  excludedCarriers : List Carrier

structure ImsiEncryptionInfo where
  mcc : Bytes
  mnc : Bytes
  carrierKey : Bytes
  keyIdentifier : Bytes
  expirationTime : Int

structure KeepaliveRequest where
  type : Int
  sourceAddress : Bytes
  sourcePort : Int
  destinationAddress : Bytes
  destinationPort : Int
  maxKeepaliveIntervalMillis : Int
  cid : Int

/-! ## Request codes -/

def rilRequestDial : Nat := 10
def rilRequestSetupDataCall : Nat := 27
def rilRequestSimIo : Nat := 28
def rilRequestSetNetworkSelectionManual : Nat := 47
def rilRequestScreenState : Nat := 61
def rilRequestWriteSmsToSim : Nat := 63
def rilRequestSetInitialAttachApn : Nat := 111
def rilRequestImsSendSms : Nat := 113
def rilRequestSimOpenChannel : Nat := 115
def rilRequestNvWriteItem : Nat := 119
def rilRequestSimAuthentication : Nat := 125
def rilRequestSetDataProfile : Nat := 128
def rilRequestSetCarrierRestrictions : Nat := 136
def rilRequestSendDeviceState : Nat := 138
def rilRequestSetUnsolicitedResponseFilter : Nat := 139
def rilRequestSetCarrierInfoImsiEncryption : Nat := 141
def rilRequestStartNetworkScan : Nat := 142
def rilRequestStartKeepalive : Nat := 144

/-! ## Dispatch functions -/

/-- A dispatch function applied to its arguments: the request code given to `addRequestToList`,
whether a `NULL` result of that is checked, whether the request is completed after `onRequest`
with a fake success, and the conversion for `onRequest`. -/
structure Dispatch where
  request : Nat
  checksNull : Bool := true
  fakesSuccess : Bool := false
  arguments : Conv Payload

def dispatchVoid (request : Nat) : Dispatch := { request, arguments := pure .void }

def dispatchString (request : Nat) (str : Bytes) : Dispatch :=
  { request, arguments := do
    return .string (← copyHidlStringToRil (cStr str) false) }

def dispatchStrings (request : Nat) (allowEmpty : Bool) (strs : List Bytes) : Dispatch where
  request := request
  fakesSuccess := request == rilRequestSetNetworkSelectionManual
  arguments := do
    allocate
    let pStrings ← strs.mapM fun str => copyHidlStringToRil (cStr str) allowEmpty
    return .strings pStrings

/-- The overload for a vector of HIDL strings. -/
def dispatchStringVec (request : Nat) (data : List Bytes) : Dispatch :=
  { request, arguments := do
    allocate
    let pStrings ← data.mapM fun str => copyHidlStringToRil str false
    return .strings pStrings }

def dispatchInts (request : Nat) (ints : List Int) : Dispatch :=
  { request, arguments := do
    allocate
    return .ints ints }

def dispatchCallForwardStatus (request : Nat) (callInfo : CallForwardInfo) : Dispatch :=
  { request, arguments := do
    let number ← copyHidlStringToRil callInfo.number false
    return .struct [callInfo.status, callInfo.reason, callInfo.serviceClass, callInfo.toa,
      callInfo.timeSeconds] [number] }

def dispatchRaw (request : Nat) (rawBytes : Bytes) : Dispatch :=
  { request, arguments := pure (.raw rawBytes) }

def dispatchIccApdu (request : Nat) (message : SimApdu) : Dispatch :=
  { request, arguments := do
    let data ← copyHidlStringToRil message.data false
    return .struct [message.sessionId, message.cla, message.instruction, message.p1, message.p2,
      message.p3] [data] }

/-- The functions that copy the numbers of a HIDL structure and cannot fail. -/
def dispatchPlain (request : Nat) (numbers : List Int) : Dispatch :=
  { request, arguments := pure (.struct numbers []) }

def dial (dialInfo : Dial) : Dispatch :=
  { request := rilRequestDial, arguments := do
    let address ← copyHidlStringToRil dialInfo.address false
    match dialInfo.uusInfo with
    | [] => return .struct [dialInfo.clir] [address]
    | uus :: _ =>
      let uusData ← if uus.uusData.length = 0 then pure none
        else copyHidlStringToRil uus.uusData false
      return .struct [dialInfo.clir, uus.uusType, uus.uusDcs, uus.uusData.length]
        [address, uusData] }

def boolToInt (b : Bool) : Int := if b then 1 else 0

def boolToStr (b : Bool) : Bytes := if b then [0x31] else [0x30]

def convertMvnoTypeToString : MvnoType → Option Bytes
  | .imsi => some [0x69, 0x6d, 0x73, 0x69]
  | .gid => some [0x67, 0x69, 0x64]
  | .spn => some [0x73, 0x70, 0x6e]
  | .none => some []
  | .other => none

/-- `convertMvnoTypeToString`, answered with `RIL_E_INVALID_ARGUMENTS` when it fails. -/
def checkMvnoType (mvnoType : MvnoType) : Conv Bytes :=
  match convertMvnoTypeToString mvnoType with
  | some str => pure str
  | none => fail rilEInvalidArguments

def setupDataCall (version : Int) (radioTechnology : Int) (info : DataProfileInfo)
    (modemCognitive roamingAllowed isRoaming : Bool) : Dispatch :=
  if version ≥ 4 ∧ version ≤ 14 then
    dispatchStrings rilRequestSetupDataCall true [toDecimal (radioTechnology + 2),
      toDecimal info.profileId, info.apn, info.user, info.password, toDecimal info.authType,
      if isRoaming then info.roamingProtocol else info.protocol]
  else if version ≥ 15 then
    match convertMvnoTypeToString info.mvnoType with
    | none => { request := rilRequestSetupDataCall, arguments := fail rilEInvalidArguments }
    | some mvnoTypeStr =>
      dispatchStrings rilRequestSetupDataCall true [toDecimal (radioTechnology + 2),
        toDecimal info.profileId, info.apn, info.user, info.password, toDecimal info.authType,
        info.protocol, info.roamingProtocol, toDecimal info.supportedApnTypesBitmap,
        toDecimal info.bearerBitmap, boolToStr modemCognitive, toDecimal info.mtu, mvnoTypeStr,
        info.mvnoMatchData, boolToStr roamingAllowed]
  else { request := rilRequestSetupDataCall, arguments := fail rilERequestNotSupported }

def iccIOForApp (iccIo : IccIo) : Dispatch :=
  { request := rilRequestSimIo, arguments := do
    let path ← copyHidlStringToRil iccIo.path false
    let data ← copyHidlStringToRil iccIo.data false
    let pin2 ← copyHidlStringToRil iccIo.pin2 false
    let aid ← copyHidlStringToRil iccIo.aid false
    return .struct [iccIo.command, iccIo.fileId, iccIo.p1, iccIo.p2, iccIo.p3]
      [path, data, pin2, aid] }

def maxRadioAccessNetworks : Nat := 8
def maxBands : Nat := 8
def maxChannels : Nat := 32

/-- The bands of a specifier's network, `none` in the `default` branch. -/
def specifierBands (spec : RadioAccessSpecifier) : Option (List Int) :=
  if spec.radioAccessNetwork = 1 then some spec.geranBands
  else if spec.radioAccessNetwork = 2 then some spec.utranBands
  else if spec.radioAccessNetwork = 3 then some spec.eutranBands
  else none

def copySpecifier (spec : RadioAccessSpecifier) : Conv (List Int) := do
  check (spec.geranBands.length ≤ maxBands && spec.utranBands.length ≤ maxBands &&
    spec.eutranBands.length ≤ maxBands && spec.channels.length ≤ maxChannels)
    rilEInvalidArguments
  match specifierBands spec with
  | none => fail rilEInvalidArguments
  | some bands =>
    return [spec.radioAccessNetwork, spec.channels.length] ++ spec.channels ++
      [(bands.length : Int)] ++ bands

def startNetworkScan (request : NetworkScanRequest) : Dispatch :=
  { request := rilRequestStartNetworkScan, arguments := do
    check (request.specifiers.length ≤ maxRadioAccessNetworks) rilEInvalidArguments
    let specifiers ← request.specifiers.mapM copySpecifier
    return .struct ([request.type, request.interval, request.specifiers.length] ++
      specifiers.flatten) [] }

def writeSmsToSim (smsWriteArgs : SmsWriteArgs) : Dispatch :=
  { request := rilRequestWriteSmsToSim, arguments := do
    let pdu ← copyHidlStringToRil smsWriteArgs.pdu false
    let smsc ← copyHidlStringToRil smsWriteArgs.smsc false
    return .struct [smsWriteArgs.status] [pdu, smsc] }

def setInitialAttachApn (version : Int) (info : DataProfileInfo) (modemCognitive isRoaming : Bool) :
    Dispatch := { request := rilRequestSetInitialAttachApn, arguments := do
  if version ≤ 14 then
    let apn ← copyHidlStringToRil info.apn true
    let protocol ← copyHidlStringToRil
      (if isRoaming then info.roamingProtocol else info.protocol) false
    let username ← copyHidlStringToRil info.user false
    let password ← copyHidlStringToRil info.password false
    return .struct [info.authType] [apn, protocol, username, password]
  else
    let apn ← copyHidlStringToRil info.apn true
    let protocol ← copyHidlStringToRil info.protocol false
    let roamingProtocol ← copyHidlStringToRil info.roamingProtocol false
    let username ← copyHidlStringToRil info.user false
    let password ← copyHidlStringToRil info.password false
    let mvnoType ← checkMvnoType info.mvnoType
    let mvnoMatchData ← copyHidlStringToRil info.mvnoMatchData false
    return .struct [info.authType, info.supportedApnTypesBitmap, info.bearerBitmap,
        boolToInt modemCognitive, info.mtu]
      [apn, protocol, roamingProtocol, username, password, some mvnoType, mvnoMatchData] }

def dispatchImsGsmSms (message : ImsSmsMessage) : Conv Payload :=
  match message.gsmMessage with
  | [gsm] => do
    allocate
    let smscPdu ← copyHidlStringToRil gsm.smscPdu false
    let pdu ← copyHidlStringToRil gsm.pdu false
    return .struct [1, boolToInt message.retry, message.messageRef] [smscPdu, pdu]
  | _ => fail rilEInvalidArguments

def dispatchImsCdmaSms (message : ImsSmsMessage) : Conv Payload :=
  match message.cdmaMessage with
  | [cdma] => return .struct ([2, boolToInt message.retry, message.messageRef] ++ cdma) []
  | _ => fail rilEInvalidArguments

def sendImsSms (message : ImsSmsMessage) : Dispatch :=
  { request := rilRequestImsSendSms, arguments :=
    if message.tech = 1 then dispatchImsGsmSms message
    else if message.tech = 2 then dispatchImsCdmaSms message
    else fail rilEInvalidArguments }

def iccOpenLogicalChannel (version : Int) (aid : Bytes) (p2 : Int) : Dispatch :=
  if version < 15 then dispatchString rilRequestSimOpenChannel aid
  else { request := rilRequestSimOpenChannel, arguments := do
    let aidPtr ← copyHidlStringToRil aid false
    return .struct [p2] [aidPtr] }

def nvWriteItem (itemId : Int) (value : Bytes) : Dispatch :=
  { request := rilRequestNvWriteItem, arguments := do
    let value ← copyHidlStringToRil value false
    return .struct [itemId] [value] }

def requestIccSimAuthentication (authContext : Int) (authData aid : Bytes) : Dispatch :=
  { request := rilRequestSimAuthentication, arguments := do
    let authData ← copyHidlStringToRil authData false
    let aid ← copyHidlStringToRil aid false
    return .struct [authContext] [authData, aid] }

/-- One profile of `setDataProfile`. -/
def copyDataProfile (version : Int) (isRoaming : Bool) (info : DataProfileInfo) :
    Conv (List Int × List (Option Bytes)) := do
  let numbers := [info.profileId, info.authType, info.type, info.maxConnsTime, info.maxConns,
    info.waitTime, boolToInt info.enabled]
  if version ≤ 14 then
    let apn ← copyHidlStringToRil info.apn true
    let protocol ← copyHidlStringToRil
      (if isRoaming then info.roamingProtocol else info.protocol) true
    let user ← copyHidlStringToRil info.user true
    let password ← copyHidlStringToRil info.password true
    return (numbers, [apn, protocol, user, password])
  else
    let apn ← copyHidlStringToRil info.apn true
    let protocol ← copyHidlStringToRil info.protocol false
    let roamingProtocol ← copyHidlStringToRil info.roamingProtocol true
    let user ← copyHidlStringToRil info.user true
    let password ← copyHidlStringToRil info.password true
    let mvnoMatchData ← copyHidlStringToRil info.mvnoMatchData true
    let mvnoType ← checkMvnoType info.mvnoType
    return (numbers ++ [info.supportedApnTypesBitmap, info.bearerBitmap, info.mtu],
      [apn, protocol, roamingProtocol, user, password, mvnoMatchData, some mvnoType])

def setDataProfile (version : Int) (profiles : List DataProfileInfo) (isRoaming : Bool) :
    Dispatch := { request := rilRequestSetDataProfile, arguments := do
  allocate
  allocate
  let dataProfiles ← profiles.mapM (copyDataProfile version isRoaming)
  return .struct (dataProfiles.flatMap Prod.fst) (dataProfiles.flatMap Prod.snd) }

def setAllowedCarriers (carriers : CarrierRestrictions) : Dispatch :=
  { request := rilRequestSetCarrierRestrictions, arguments := do
    allocate
    allocate
    let all := carriers.allowedCarriers ++ carriers.excludedCarriers
    return .struct ([(carriers.allowedCarriers.length : Int),
        (carriers.excludedCarriers.length : Int)] ++ all.map Carrier.matchType)
      (all.flatMap fun c => [some (cStr c.mcc), some (cStr c.mnc), some (cStr c.matchData)]) }

/-- `DeviceStateType::LOW_DATA_EXPECTED`. -/
def lowDataExpected : Int := 2

def sendDeviceState (version deviceStateType : Int) (state : Bool) : Dispatch :=
  if version < 15 then
    if deviceStateType = lowDataExpected then dispatchInts rilRequestScreenState [boolToInt !state]
    else { request := rilRequestSendDeviceState, checksNull := false,
           arguments := fail rilERequestNotSupported }
  else dispatchInts rilRequestSendDeviceState [deviceStateType, boolToInt state]

def setIndicationFilter (version indicationFilter : Int) : Dispatch :=
  if version < 15 then
    { request := rilRequestSetUnsolicitedResponseFilter, checksNull := false,
      arguments := fail rilERequestNotSupported }
  else dispatchInts rilRequestSetUnsolicitedResponseFilter [indicationFilter]

def setCarrierInfoForImsiEncryption (data : ImsiEncryptionInfo) : Dispatch :=
  { request := rilRequestSetCarrierInfoImsiEncryption, arguments := do
    let mnc ← copyHidlStringToRil data.mnc false
    let mcc ← copyHidlStringToRil data.mcc false
    let keyIdentifier ← copyHidlStringToRil data.keyIdentifier false
    return .struct [data.carrierKey.length, data.expirationTime]
      [mnc, mcc, keyIdentifier, some data.carrierKey] }

/-- The length of an address of a keepalive type, `none` in the `default` branch. -/
def keepaliveAddressSize (type : Int) : Option Nat :=
  if type = 0 then some 4 else if type = 1 then some 16 else none

def startKeepalive (keepalive : KeepaliveRequest) : Dispatch :=
  { request := rilRequestStartKeepalive, arguments := do
    match keepaliveAddressSize keepalive.type with
    | none => fail rilEInvalidArguments
    | some size =>
      check (keepalive.sourceAddress.length == size && keepalive.destinationAddress.length == size)
        rilEInvalidArguments
      return .struct [keepalive.type, keepalive.sourcePort, keepalive.destinationPort,
          keepalive.maxKeepaliveIntervalMillis, keepalive.cid]
        [some keepalive.sourceAddress, some keepalive.destinationAddress] }

/-! ## HIDL requests -/

/-- A request of the framework, by the function that dispatches it. -/
inductive HidlRequest where
  | dispatchVoid (request : Nat)
  | dispatchString (request : Nat) (str : Bytes)
  | dispatchStrings (request : Nat) (allowEmpty : Bool) (strs : List Bytes)
  | dispatchStringVec (request : Nat) (data : List Bytes)
  | dispatchInts (request : Nat) (ints : List Int)
  | dispatchCallForwardStatus (request : Nat) (callInfo : CallForwardInfo)
  | dispatchRaw (request : Nat) (rawBytes : Bytes)
  | dispatchIccApdu (request : Nat) (message : SimApdu)
  | dispatchPlain (request : Nat) (numbers : List Int)
  | dial (dialInfo : Dial)
  | setupDataCall (radioTechnology : Int) (info : DataProfileInfo)
      (modemCognitive roamingAllowed isRoaming : Bool)
  | iccIOForApp (iccIo : IccIo)
  | startNetworkScan (request : NetworkScanRequest)
  | writeSmsToSim (smsWriteArgs : SmsWriteArgs)
  | setInitialAttachApn (info : DataProfileInfo) (modemCognitive isRoaming : Bool)
  | sendImsSms (message : ImsSmsMessage)
  | iccOpenLogicalChannel (aid : Bytes) (p2 : Int)
  | nvWriteItem (itemId : Int) (value : Bytes)
  | requestIccSimAuthentication (authContext : Int) (authData aid : Bytes)
  | setDataProfile (profiles : List DataProfileInfo) (isRoaming : Bool)
  | setAllowedCarriers (carriers : CarrierRestrictions)
  | sendDeviceState (deviceStateType : Int) (state : Bool)
  | setIndicationFilter (indicationFilter : Int)
  | setCarrierInfoForImsiEncryption (data : ImsiEncryptionInfo)
  | startKeepalive (keepalive : KeepaliveRequest)

/-- What is dispatched for a request, with a vendor of the given RIL version. -/
def HidlRequest.dispatch (version : Int) : HidlRequest → Dispatch
  | .dispatchVoid request => Ril.dispatchVoid request
  | .dispatchString request str => Ril.dispatchString request str
  | .dispatchStrings request allowEmpty strs => Ril.dispatchStrings request allowEmpty strs
  | .dispatchStringVec request data => Ril.dispatchStringVec request data
  | .dispatchInts request ints => Ril.dispatchInts request ints
  | .dispatchCallForwardStatus request callInfo => Ril.dispatchCallForwardStatus request callInfo
  | .dispatchRaw request rawBytes => Ril.dispatchRaw request rawBytes
  | .dispatchIccApdu request message => Ril.dispatchIccApdu request message
  | .dispatchPlain request numbers => Ril.dispatchPlain request numbers
  | .dial dialInfo => Ril.dial dialInfo
  | .setupDataCall radioTechnology info modemCognitive roamingAllowed isRoaming =>
    Ril.setupDataCall version radioTechnology info modemCognitive roamingAllowed isRoaming
  | .iccIOForApp iccIo => Ril.iccIOForApp iccIo
  | .startNetworkScan request => Ril.startNetworkScan request
  | .writeSmsToSim smsWriteArgs => Ril.writeSmsToSim smsWriteArgs
  | .setInitialAttachApn info modemCognitive isRoaming =>
    Ril.setInitialAttachApn version info modemCognitive isRoaming
  | .sendImsSms message => Ril.sendImsSms message
  | .iccOpenLogicalChannel aid p2 => Ril.iccOpenLogicalChannel version aid p2
  | .nvWriteItem itemId value => Ril.nvWriteItem itemId value
  | .requestIccSimAuthentication authContext authData aid =>
    Ril.requestIccSimAuthentication authContext authData aid
  | .setDataProfile profiles isRoaming => Ril.setDataProfile version profiles isRoaming
  | .setAllowedCarriers carriers => Ril.setAllowedCarriers carriers
  | .sendDeviceState deviceStateType state => Ril.sendDeviceState version deviceStateType state
  | .setIndicationFilter indicationFilter => Ril.setIndicationFilter version indicationFilter
  | .setCarrierInfoForImsiEncryption data => Ril.setCarrierInfoForImsiEncryption data
  | .startKeepalive keepalive => Ril.startKeepalive keepalive

end Ril
end Huashan
