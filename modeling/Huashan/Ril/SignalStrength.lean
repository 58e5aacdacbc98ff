import Huashan.Ril.CellIdentity

/-!
# Huashan.Ril.SignalStrength

Signal strengths. A vendor of version 8 reports no TD-SCDMA; `convertRilSignalStrengthToHal` has a
conversion for it and one for version 10. The numbers of HIDL are taken as signed, as the vendor's
are.

`convertV10_eq`: with an unknown TD-SCDMA the conversions differ in the timing advance of GSM, which
that of version 8 does not set.
-/

namespace Huashan
namespace Ril

/-! ## The vendor's structures -/

structure RilGwSignalStrength where
  signalStrength : Int32
  bitErrorRate : Int32

structure RilCdmaSignalStrength where
  dbm : Int32
  ecio : Int32

structure RilEvdoSignalStrength where
  dbm : Int32
  ecio : Int32
  signalNoiseRatio : Int32

structure RilLteSignalStrengthV8 where
  signalStrength : Int32
  rsrp : Int32
  rsrq : Int32
  rssnr : Int32
  cqi : Int32
  timingAdvance : Int32

structure RilTdScdmaSignalStrength where
  rscp : Int32

structure RilSignalStrengthV8 where
  gw : RilGwSignalStrength
  cdma : RilCdmaSignalStrength
  evdo : RilEvdoSignalStrength
  lte : RilLteSignalStrengthV8

structure RilSignalStrengthV10 where
  gw : RilGwSignalStrength
  cdma : RilCdmaSignalStrength
  evdo : RilEvdoSignalStrength
  lte : RilLteSignalStrengthV8
  tdScdma : RilTdScdmaSignalStrength

/-- A response, whose length tells the versions apart. -/
inductive RilSignalStrength where
  | v8 (response : RilSignalStrengthV8)
  | v10 (response : RilSignalStrengthV10)

/-! ## The structures of HIDL -/

structure GsmSignalStrength where
  signalStrength : Int32
  bitErrorRate : Int32
  timingAdvance : Int32
  deriving DecidableEq

structure CdmaSignalStrength where
  dbm : Int32
  ecio : Int32
  deriving DecidableEq

structure EvdoSignalStrength where
  dbm : Int32
  ecio : Int32
  signalNoiseRatio : Int32
  deriving DecidableEq

structure LteSignalStrength where
  signalStrength : Int32
  rsrp : Int32
  rsrq : Int32
  rssnr : Int32
  cqi : Int32
  timingAdvance : Int32
  deriving DecidableEq

structure TdScdmaSignalStrength where
  rscp : Int32
  deriving DecidableEq

structure SignalStrength where
  gw : GsmSignalStrength
  cdma : CdmaSignalStrength
  evdo : EvdoSignalStrength
  lte : LteSignalStrength
  tdScdma : TdScdmaSignalStrength
  deriving DecidableEq

def SignalStrength.zero : SignalStrength :=
  ⟨⟨0, 0, 0⟩, ⟨0, 0⟩, ⟨0, 0, 0⟩, ⟨0, 0, 0, 0, 0, 0⟩, ⟨0⟩⟩

/-! ## Conversion -/

/-- `-x`, unless it overflows. -/
def negate (x : Int32) : Option Int32 := if x = Int32.minValue then none else some (-x)

/-- -1 is unknown, and other negative numbers become positive. -/
def remapRsrp (rsrp : Int32) : Option Int32 :=
  if rsrp = -1 then some intMax
  else if rsrp < -1 then negate rsrp
  else some rsrp

/-- What both conversions do to the LTE part of the response, for backwards compatibility. -/
def fixupLte (lte : RilLteSignalStrengthV8) : Option RilLteSignalStrengthV8 := do
  let rsrp ← remapRsrp lte.rsrp
  return { lte with
    signalStrength := if lte.signalStrength = -1 then 99 else lte.signalStrength
    rsrp := rsrp
    rsrq := if lte.rsrq = -1 then intMax else lte.rsrq
    cqi := if lte.cqi = -1 then intMax else lte.cqi }

def convertRilSignalStrengthToHalV8 (response : RilSignalStrengthV8)
    (signalStrength : SignalStrength) : Option SignalStrength := do
  let lte ← fixupLte response.lte
  return { signalStrength with
    gw := { signalStrength.gw with
      signalStrength := response.gw.signalStrength
      bitErrorRate := response.gw.bitErrorRate }
    cdma := { dbm := response.cdma.dbm, ecio := response.cdma.ecio }
    evdo := {
      dbm := response.evdo.dbm
      ecio := response.evdo.ecio
      signalNoiseRatio := response.evdo.signalNoiseRatio }
    lte := {
      signalStrength := lte.signalStrength
      rsrp := lte.rsrp
      rsrq := lte.rsrq
      rssnr := lte.rssnr
      cqi := lte.cqi
      timingAdvance := lte.timingAdvance }
    tdScdma := { rscp := intMax } }

def convertRilSignalStrengthToHalV10 (response : RilSignalStrengthV10)
    (signalStrength : SignalStrength) : Option SignalStrength := do
  let lte ← fixupLte response.lte
  return { signalStrength with
    gw := {
      signalStrength := response.gw.signalStrength
      bitErrorRate := response.gw.bitErrorRate
      timingAdvance := intMax }
    cdma := { dbm := response.cdma.dbm, ecio := response.cdma.ecio }
    evdo := {
      dbm := response.evdo.dbm
      ecio := response.evdo.ecio
      signalNoiseRatio := response.evdo.signalNoiseRatio }
    lte := {
      signalStrength := lte.signalStrength
      rsrp := lte.rsrp
      rsrq := lte.rsrq
      rssnr := lte.rssnr
      cqi := lte.cqi
      timingAdvance := lte.timingAdvance }
    tdScdma := { rscp := response.tdScdma.rscp } }

def convertRilSignalStrengthToHal (response : RilSignalStrength) (signalStrength : SignalStrength) :
    Option SignalStrength :=
  match response with
  | .v8 response => convertRilSignalStrengthToHalV8 response signalStrength
  | .v10 response => convertRilSignalStrengthToHalV10 response signalStrength

/-! ## Both versions -/

/-- The same report of version 10. -/
def RilSignalStrengthV8.toV10 (r : RilSignalStrengthV8) (rscp : Int32) : RilSignalStrengthV10 :=
  ⟨r.gw, r.cdma, r.evdo, r.lte, ⟨rscp⟩⟩

/-- The conversion does not overflow, and the rsrp is not negative. -/
def RsrpRight (response : RilSignalStrength) : Prop :=
  ∃ s, convertRilSignalStrengthToHal response .zero = some s ∧ 0 ≤ s.lte.rsrp

/-- Both reports have the same result, and the rsrp of both is right. -/
def ReportsAgree (r : RilSignalStrengthV8) : Prop :=
  convertRilSignalStrengthToHal (.v8 r) .zero =
      convertRilSignalStrengthToHal (.v10 (r.toV10 intMax)) .zero ∧
    RsrpRight (.v8 r) ∧ RsrpRight (.v10 (r.toV10 intMax))

/-- The conversion of version 10 sets the timing advance of GSM too, and the rscp that it is
given. -/
theorem convertV10_eq (r : RilSignalStrengthV8) (rscp : Int32) (s : SignalStrength) :
    convertRilSignalStrengthToHalV10 (r.toV10 rscp) s =
      (convertRilSignalStrengthToHalV8 r s).map fun t =>
        { t with gw := { t.gw with timingAdvance := intMax }, tdScdma := ⟨rscp⟩ } := by
  unfold convertRilSignalStrengthToHalV10 convertRilSignalStrengthToHalV8
  cases h : fixupLte r.lte <;> simp [RilSignalStrengthV8.toV10, h]

/-- The conversion of version 8 leaves the timing advance of GSM as it was. -/
theorem convertV8_timingAdvance {r : RilSignalStrengthV8} {s t : SignalStrength}
    (h : convertRilSignalStrengthToHalV8 r s = some t) :
    t.gw.timingAdvance = s.gw.timingAdvance := by
  unfold convertRilSignalStrengthToHalV8 at h
  cases hl : fixupLte r.lte with
  | none => simp [hl] at h
  | some l =>
    simp only [hl, Option.bind_eq_bind, Option.bind_some] at h
    cases h
    rfl

/-- No report of version 8 has the result of the same report of version 10. -/
theorem not_reportsAgree (r : RilSignalStrengthV8) : ¬ReportsAgree r := by
  rintro ⟨hsame, ⟨s, hs, _⟩, _⟩
  simp only [convertRilSignalStrengthToHal, convertV10_eq] at hs hsame
  rw [hs, Option.map_some, Option.some_inj] at hsame
  have hunset : s.gw.timingAdvance = 0 := convertV8_timingAdvance hs
  have hset : s.gw.timingAdvance = intMax := congrArg (fun t => t.gw.timingAdvance) hsame
  rw [hunset] at hset
  revert hset
  decide

/-- A report of version 8 leaves the timing advance of GSM at zero. -/
theorem timing_advance_unset : ¬∀ r : RilSignalStrengthV8, ReportsAgree r := by
  intro h
  have hsame := (h ⟨⟨20, 0⟩, ⟨90, 120⟩, ⟨90, 120, 5⟩, ⟨30, 90, 10, 100, 8, 2⟩⟩).1
  revert hsame
  decide

end Ril
end Huashan
