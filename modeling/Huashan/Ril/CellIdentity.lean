import Huashan.Ril.ResponseInfo

/-!
# Huashan.Ril.CellIdentity

The identity of a cell, as the vendor and as HIDL have it, and `fillCellIdentityResponse`, which
makes the one from the other.
-/

namespace Huashan
namespace Ril

/-! ## The vendor's structures -/

inductive RilCellInfoType where
  | none
  | gsm
  | cdma
  | lte
  | wcdma
  | tdscdma
  deriving DecidableEq, Repr

structure RilCellIdentityGsm where
  mcc : Int32
  mnc : Int32
  lac : Int32
  cid : Int32
  arfcn : Int32
  bsic : UInt8

structure RilCellIdentityWcdma where
  mcc : Int32
  mnc : Int32
  lac : Int32
  cid : Int32
  psc : Int32
  uarfcn : Int32

structure RilCellIdentityCdma where
  networkId : Int32
  systemId : Int32
  basestationId : Int32
  longitude : Int32
  latitude : Int32

structure RilCellIdentityLte where
  mcc : Int32
  mnc : Int32
  ci : Int32
  pci : Int32
  tac : Int32
  earfcn : Int32

structure RilCellIdentityTdscdma where
  mcc : Int32
  mnc : Int32
  lac : Int32
  cid : Int32
  cpid : Int32

/-- `RIL_CellIdentity_v16`: the type, and the member of the union that it selects. -/
inductive RilCellIdentity where
  | none
  | gsm (cellIdentityGsm : RilCellIdentityGsm)
  | cdma (cellIdentityCdma : RilCellIdentityCdma)
  | lte (cellIdentityLte : RilCellIdentityLte)
  | wcdma (cellIdentityWcdma : RilCellIdentityWcdma)
  | tdscdma (cellIdentityTdscdma : RilCellIdentityTdscdma)

def RilCellIdentity.cellInfoType : RilCellIdentity → RilCellInfoType
  | none => .none
  | gsm _ => .gsm
  | cdma _ => .cdma
  | lte _ => .lte
  | wcdma _ => .wcdma
  | tdscdma _ => .tdscdma

/-! What `memset` with -1 leaves in the members. -/

def RilCellIdentityGsm.unset : RilCellIdentityGsm := ⟨-1, -1, -1, -1, -1, 0xff⟩
def RilCellIdentityWcdma.unset : RilCellIdentityWcdma := ⟨-1, -1, -1, -1, -1, -1⟩
def RilCellIdentityCdma.unset : RilCellIdentityCdma := ⟨-1, -1, -1, -1, -1⟩
def RilCellIdentityLte.unset : RilCellIdentityLte := ⟨-1, -1, -1, -1, -1, -1⟩
def RilCellIdentityTdscdma.unset : RilCellIdentityTdscdma := ⟨-1, -1, -1, -1, -1⟩

/-! ## The structures of HIDL -/

structure CellIdentityGsm where
  mcc : Bytes
  mnc : Bytes
  lac : Int32
  cid : Int32
  arfcn : Int32
  bsic : UInt8
  deriving DecidableEq

structure CellIdentityWcdma where
  mcc : Bytes
  mnc : Bytes
  lac : Int32
  cid : Int32
  psc : Int32
  uarfcn : Int32
  deriving DecidableEq

structure CellIdentityCdma where
  networkId : Int32
  systemId : Int32
  baseStationId : Int32
  longitude : Int32
  latitude : Int32
  deriving DecidableEq

structure CellIdentityLte where
  mcc : Bytes
  mnc : Bytes
  ci : Int32
  pci : Int32
  tac : Int32
  earfcn : Int32
  deriving DecidableEq

structure CellIdentityTdscdma where
  mcc : Bytes
  mnc : Bytes
  lac : Int32
  cid : Int32
  cpid : Int32
  deriving DecidableEq

/-- The list of the type has one element, the others are empty. -/
structure CellIdentity where
  cellInfoType : RilCellInfoType
  cellIdentityGsm : List CellIdentityGsm
  cellIdentityWcdma : List CellIdentityWcdma
  cellIdentityCdma : List CellIdentityCdma
  cellIdentityLte : List CellIdentityLte
  cellIdentityTdscdma : List CellIdentityTdscdma
  deriving DecidableEq

def CellIdentity.empty : CellIdentity := ⟨.none, [], [], [], [], []⟩

/-! ## Conversion -/

def intMax : Int32 := Int32.maxValue

/-- `%03.3u`. -/
def formatMnc (umnc : UInt32) : Bytes := (toDecimal umnc.toNat).leftpad 3 0x30

/-- `ril::util::mnc::decode`. -/
def decodeMnc (mnc : Int32) : Bytes :=
  if mnc = intMax ∨ mnc < 0 then []
  else
    let mncNumDigits := (mnc.toUInt32 >>> 28) &&& 0xf
    let umnc := (mnc.toUInt32 <<< 4) >>> 4
    if umnc > 999 then []
    else if mncNumDigits = 0 then toDecimal umnc.toNat
    else if mncNumDigits = 2 then (formatMnc umnc).drop 1
    else if mncNumDigits = 3 then formatMnc umnc
    else []

/-- Empty for -1. -/
def convertMcc (mcc : Int32) : Bytes :=
  let str := toDecimal mcc.toInt
  if str = toDecimal (-1) then [] else str

def fillCellIdentityResponse (rilCellIdentity : RilCellIdentity) : CellIdentity :=
  let cellIdentity := { CellIdentity.empty with cellInfoType := rilCellIdentity.cellInfoType }
  match rilCellIdentity with
  | .gsm cell =>
    { cellIdentity with
      cellIdentityGsm := [⟨convertMcc cell.mcc, decodeMnc cell.mnc, cell.lac, cell.cid, cell.arfcn,
        cell.bsic⟩] }
  | .wcdma cell =>
    { cellIdentity with
      cellIdentityWcdma := [⟨convertMcc cell.mcc, decodeMnc cell.mnc, cell.lac, cell.cid, cell.psc,
        cell.uarfcn⟩] }
  | .cdma cell =>
    { cellIdentity with
      cellIdentityCdma := [⟨cell.networkId, cell.systemId, cell.basestationId, cell.longitude,
        cell.latitude⟩] }
  | .lte cell =>
    { cellIdentity with
      cellIdentityLte := [⟨convertMcc cell.mcc, decodeMnc cell.mnc, cell.ci, cell.pci, cell.tac,
        cell.earfcn⟩] }
  | .tdscdma cell =>
    { cellIdentity with
      cellIdentityTdscdma := [⟨convertMcc cell.mcc, decodeMnc cell.mnc, cell.lac, cell.cid,
        cell.cpid⟩] }
  | .none => cellIdentity

end Ril
end Huashan
