import Huashan.Ril.Mnc
import Huashan.Ril.SignalStrength

/-!
# Huashan.Ril.CellInfo

Lists of cells. `convertRilCellInfoListToHal` converts the identity of each cell on its own, next to
`fillCellIdentityResponse`.

`identityAgrees_iff`: both give the same identity exactly when the cell has no mobile country code,
or one that is not -1, which the list shows as a number.
-/

namespace Huashan
namespace Ril

/-! ## The vendor's structures -/

structure RilGsmSignalStrengthV12 where
  signalStrength : Int32
  bitErrorRate : Int32
  timingAdvance : Int32

structure RilSignalStrengthWcdma where
  signalStrength : Int32
  bitErrorRate : Int32

/-- The type of a cell, and the member of the union that it selects. -/
inductive RilCellInfoUnion where
  | none
  | gsm (cellIdentityGsm : RilCellIdentityGsm) (signalStrengthGsm : RilGsmSignalStrengthV12)
  | cdma (cellIdentityCdma : RilCellIdentityCdma) (signalStrengthCdma : RilCdmaSignalStrength)
    (signalStrengthEvdo : RilEvdoSignalStrength)
  | lte (cellIdentityLte : RilCellIdentityLte) (signalStrengthLte : RilLteSignalStrengthV8)
  | wcdma (cellIdentityWcdma : RilCellIdentityWcdma)
    (signalStrengthWcdma : RilSignalStrengthWcdma)
  | tdscdma (cellIdentityTdscdma : RilCellIdentityTdscdma)
    (signalStrengthTdscdma : RilTdScdmaSignalStrength)

/-- `RIL_CellIdentity_v16` with the same contents. -/
def RilCellInfoUnion.identity : RilCellInfoUnion → RilCellIdentity
  | none => .none
  | gsm cell _ => .gsm cell
  | cdma cell _ _ => .cdma cell
  | lte cell _ => .lte cell
  | wcdma cell _ => .wcdma cell
  | tdscdma cell _ => .tdscdma cell

/-- `RIL_CellInfo_v12`. -/
structure RilCellInfo where
  registered : Int32
  timeStampType : Int32
  timeStamp : UInt64
  cellInfo : RilCellInfoUnion

/-! ## The structures of HIDL -/

structure WcdmaSignalStrength where
  signalStrength : Int32
  bitErrorRate : Int32

structure CellInfoGsm where
  cellIdentityGsm : CellIdentityGsm
  signalStrengthGsm : GsmSignalStrength

structure CellInfoWcdma where
  cellIdentityWcdma : CellIdentityWcdma
  signalStrengthWcdma : WcdmaSignalStrength

structure CellInfoCdma where
  cellIdentityCdma : CellIdentityCdma
  signalStrengthCdma : CdmaSignalStrength
  signalStrengthEvdo : EvdoSignalStrength

structure CellInfoLte where
  cellIdentityLte : CellIdentityLte
  signalStrengthLte : LteSignalStrength

structure CellInfoTdscdma where
  cellIdentityTdscdma : CellIdentityTdscdma
  signalStrengthTdscdma : TdScdmaSignalStrength

/-- The list of the type has one element, the others are empty. -/
structure CellInfo where
  cellInfoType : RilCellInfoType
  registered : Bool
  timeStampType : Int32
  timeStamp : UInt64
  gsm : List CellInfoGsm
  wcdma : List CellInfoWcdma
  cdma : List CellInfoCdma
  lte : List CellInfoLte
  tdscdma : List CellInfoTdscdma

/-! ## Conversion -/

/-- The body of the loop. -/
def convertRilCellInfo (rillCellInfo : RilCellInfo) : CellInfo :=
  let record : CellInfo := {
    cellInfoType := rillCellInfo.cellInfo.identity.cellInfoType
    registered := rillCellInfo.registered != 0
    timeStampType := rillCellInfo.timeStampType
    timeStamp := rillCellInfo.timeStamp
    gsm := []
    wcdma := []
    cdma := []
    lte := []
    tdscdma := [] }
  match rillCellInfo.cellInfo with
  | .gsm cell signal =>
    { record with
      gsm := [{
        cellIdentityGsm := {
          mcc := toDecimal cell.mcc.toInt
          mnc := decodeMnc cell.mnc
          lac := cell.lac
          cid := cell.cid
          arfcn := cell.arfcn
          bsic := cell.bsic }
        signalStrengthGsm := ⟨signal.signalStrength, signal.bitErrorRate, signal.timingAdvance⟩ }] }
  | .wcdma cell signal =>
    { record with
      wcdma := [{
        cellIdentityWcdma := {
          mcc := toDecimal cell.mcc.toInt
          mnc := decodeMnc cell.mnc
          lac := cell.lac
          cid := cell.cid
          psc := cell.psc
          uarfcn := cell.uarfcn }
        signalStrengthWcdma := ⟨signal.signalStrength, signal.bitErrorRate⟩ }] }
  | .cdma cell signal evdo =>
    { record with
      cdma := [{
        cellIdentityCdma := {
          networkId := cell.networkId
          systemId := cell.systemId
          baseStationId := cell.basestationId
          longitude := cell.longitude
          latitude := cell.latitude }
        signalStrengthCdma := ⟨signal.dbm, signal.ecio⟩
        signalStrengthEvdo := ⟨evdo.dbm, evdo.ecio, evdo.signalNoiseRatio⟩ }] }
  | .lte cell signal =>
    { record with
      lte := [{
        cellIdentityLte := {
          mcc := toDecimal cell.mcc.toInt
          mnc := decodeMnc cell.mnc
          ci := cell.ci
          pci := cell.pci
          tac := cell.tac
          earfcn := cell.earfcn }
        signalStrengthLte := ⟨signal.signalStrength, signal.rsrp, signal.rsrq, signal.rssnr,
          signal.cqi, signal.timingAdvance⟩ }] }
  | .tdscdma cell signal =>
    { record with
      tdscdma := [{
        cellIdentityTdscdma := {
          mcc := toDecimal cell.mcc.toInt
          mnc := decodeMnc cell.mnc
          lac := cell.lac
          cid := cell.cid
          cpid := cell.cpid }
        signalStrengthTdscdma := ⟨signal.rscp⟩ }] }
  | .none => record

/-- The loop over the response. -/
def convertRilCellInfoListToHal : List RilCellInfo → List CellInfo
  | [] => []
  | rillCellInfo :: rest => convertRilCellInfo rillCellInfo :: convertRilCellInfoListToHal rest

/-! ## Identities -/

/-- The identity in a record is the one of a `CellIdentity`. -/
@[mk_iff sameIdentity_iff_fields]
structure CellInfo.SameIdentity (info : CellInfo) (identity : CellIdentity) : Prop where
  cellInfoType : info.cellInfoType = identity.cellInfoType
  gsm : info.gsm.map (·.cellIdentityGsm) = identity.cellIdentityGsm
  wcdma : info.wcdma.map (·.cellIdentityWcdma) = identity.cellIdentityWcdma
  cdma : info.cdma.map (·.cellIdentityCdma) = identity.cellIdentityCdma
  lte : info.lte.map (·.cellIdentityLte) = identity.cellIdentityLte
  tdscdma : info.tdscdma.map (·.cellIdentityTdscdma) = identity.cellIdentityTdscdma

/-- At a position of the list, the cell has the identity of `fillCellIdentityResponse`. -/
def IdentityAgrees (response : List RilCellInfo) (i : Fin response.length) : Prop :=
  ∃ info, (convertRilCellInfoListToHal response)[i.val]? = some info ∧
    info.SameIdentity (fillCellIdentityResponse response[i].cellInfo.identity)

/-- The mobile country code, which CDMA has none of. -/
def RilCellIdentity.mcc : RilCellIdentity → Option Int32
  | none => .none
  | gsm cell => some cell.mcc
  | cdma _ => .none
  | lte cell => some cell.mcc
  | wcdma cell => some cell.mcc
  | tdscdma cell => some cell.mcc

theorem toDecimal_negSucc (n : Nat) :
    toDecimal (Int.negSucc n) = 0x2d :: digitBytes 10 (n + 1) := by
  show ("-" ++ Nat.repr (n + 1)).toList.map _ = _
  rw [String.toList_append, Nat.toList_repr]
  rfl

theorem digitBytes_inj {m n : Nat} (h : digitBytes 10 m = digitBytes 10 n) : m = n := by
  rw [← (isNumeral_decimal m).value, h, (isNumeral_decimal n).value]

/-- A sign is no digit. -/
theorem digitBytes_ne_sign (n : Nat) (rest : Bytes) : digitBytes 10 n ≠ 0x2d :: rest := by
  intro h
  have hsign := (isNumeral_decimal n).isDigitOf 0x2d (by simp [h])
  revert hsign
  decide

theorem toDecimal_inj {m n : Int} (h : toDecimal m = toDecimal n) : m = n := by
  cases m with
  | ofNat m =>
    have hm : toDecimal (Int.ofNat m) = digitBytes 10 m := toDecimal_natCast m
    cases n with
    | ofNat n =>
      have hn : toDecimal (Int.ofNat n) = digitBytes 10 n := toDecimal_natCast n
      rw [hm, hn] at h
      rw [digitBytes_inj h]
    | negSucc n =>
      rw [hm, toDecimal_negSucc] at h
      exact absurd h (digitBytes_ne_sign m _)
  | negSucc m =>
    cases n with
    | ofNat n =>
      have hn : toDecimal (Int.ofNat n) = digitBytes 10 n := toDecimal_natCast n
      rw [hn, toDecimal_negSucc] at h
      exact absurd h.symm (digitBytes_ne_sign n _)
    | negSucc n =>
      rw [toDecimal_negSucc, toDecimal_negSucc] at h
      have heq := digitBytes_inj (List.cons.inj h).2
      rw [Nat.succ.inj heq]

/-- `fillCellIdentityResponse` shows a mobile country code as the list does, unless it is -1. -/
theorem toDecimal_eq_convertMcc_iff (mcc : Int32) :
    toDecimal mcc.toInt = convertMcc mcc ↔ mcc ≠ -1 := by
  unfold convertMcc
  by_cases hmcc : mcc = -1
  · subst hmcc
    exact iff_of_false (by decide) (by simp)
  · have hne : toDecimal mcc.toInt ≠ toDecimal (-1) := fun h =>
      hmcc (Int32.toInt_inj.mp (toDecimal_inj h))
    exact iff_of_true (by simp [hne]) hmcc

/-- Of one cell, the code is shown as it is in both. -/
theorem sameIdentity_iff (cell : RilCellInfo) :
    (convertRilCellInfo cell).SameIdentity (fillCellIdentityResponse cell.cellInfo.identity) ↔
      cell.cellInfo.identity.mcc ≠ some (-1) := by
  obtain ⟨registered, timeStampType, timeStamp, cellInfo⟩ := cell
  cases cellInfo <;>
    simp [CellInfo.sameIdentity_iff_fields, convertRilCellInfo, fillCellIdentityResponse,
      CellIdentity.empty, RilCellInfoUnion.identity, RilCellIdentity.cellInfoType,
      RilCellIdentity.mcc, toDecimal_eq_convertMcc_iff]

theorem getElem?_convertRilCellInfoListToHal (response : List RilCellInfo) (i : Nat) :
    (convertRilCellInfoListToHal response)[i]? = response[i]?.map convertRilCellInfo := by
  induction response generalizing i with
  | nil => rfl
  | cons cell rest ih =>
    cases i with
    | zero => rfl
    | succ i => exact ih i

/-- At every position of every list, the identities agree exactly when the cell has no mobile
country code, or one other than -1. -/
theorem identityAgrees_iff (response : List RilCellInfo) (i : Fin response.length) :
    IdentityAgrees response i ↔ response[i].cellInfo.identity.mcc ≠ some (-1) := by
  have hcell : response[i.val]? = some response[i] := List.getElem?_eq_getElem i.isLt
  rw [← sameIdentity_iff, IdentityAgrees, getElem?_convertRilCellInfoListToHal, hcell,
    Option.map_some]
  constructor
  · rintro ⟨info, hinfo, hsame⟩
    cases hinfo
    exact hsame
  · exact fun hsame => ⟨_, rfl, hsame⟩

/-- A GSM cell whose codes are -1. -/
def unknownCell : RilCellInfo := ⟨0, 0, 0, .gsm .unset ⟨99, 99, -1⟩⟩

/-- The list shows the code of such a cell as `"-1"`. -/
theorem unknown_mcc_shown : ¬∀ (response : List RilCellInfo) (i : Fin response.length),
    IdentityAgrees response i := by
  intro h
  obtain ⟨info, hinfo, hsame⟩ := h [unknownCell] ⟨0, by decide⟩
  cases hinfo
  have hgsm := hsame.gsm
  revert hgsm
  decide

end Ril
end Huashan
