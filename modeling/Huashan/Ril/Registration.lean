import Huashan.Numerals
import Huashan.Ril.CellIdentity

/-!
# Huashan.Ril.Registration

The registration states that a vendor of version 14 or earlier gives as an array of strings:
`getVoiceRegistrationStateResponse` and `getDataRegistrationStateResponse`.

`registrationRight_iff`: in an array of an accepted length, the location and the cell id are
reported as spelled exactly when none of them is above the largest `int`, which is where `strtol`
stops.
-/

namespace Huashan
namespace Ril

/-! ## Entries -/

/-- An entry that is there and not `NULL`, in the given base. -/
def convertEntryToInt (base : Nat) (response : List (Option Bytes)) (index numStrings : Nat) :
    Except Fault Int32 :=
  if numStrings > index then do
    match ← readEntry response index with
    | some str => return strtol base (cStr str)
    | none => return -1
  else return -1

def convertResponseStringEntryToInt := convertEntryToInt 10

def convertResponseHexStringEntryToInt := convertEntryToInt 16

/-- `ATOI_NULL_HANDLED_DEF`. -/
def atoiNullHandledDef (x : Option Bytes) (defaultVal : Int32) : Int32 :=
  match x with
  | some str => atoi (cStr str)
  | none => defaultVal

/-- `ATOI_NULL_HANDLED`. -/
def atoiNullHandled (x : Option Bytes) : Int32 := atoiNullHandledDef x (-1)

def radioTechGprs : Int32 := 1
def radioTechEdge : Int32 := 2
def radioTechUmts : Int32 := 3
def radioTechIs95a : Int32 := 4
def radioTechIs95b : Int32 := 5
def radioTech1xRtt : Int32 := 6
def radioTechEvdo0 : Int32 := 7
def radioTechEvdoA : Int32 := 8
def radioTechHsdpa : Int32 := 9
def radioTechHsupa : Int32 := 10
def radioTechHspa : Int32 := 11
def radioTechEvdoB : Int32 := 12
def radioTechEhrpd : Int32 := 13
def radioTechLte : Int32 := 14
def radioTechHspap : Int32 := 15
def radioTechGsm : Int32 := 16
def radioTechTdScdma : Int32 := 17
def radioTechLteCa : Int32 := 19

def getCellInfoTypeRadioTechnology (rat : Option Bytes) : RilCellInfoType :=
  match rat with
  | none => .none
  | some rat =>
    let radioTech := atoi (cStr rat)
    if radioTech ∈ [radioTechGprs, radioTechEdge, radioTechGsm] then .gsm
    else if radioTech ∈ [radioTechUmts, radioTechHsdpa, radioTechHsupa, radioTechHspa,
      radioTechHspap] then .wcdma
    else if radioTech ∈ [radioTechIs95a, radioTechIs95b, radioTech1xRtt, radioTechEvdo0,
      radioTechEvdoA, radioTechEvdoB, radioTechEhrpd] then .cdma
    else if radioTech ∈ [radioTechLte, radioTechLteCa] then .lte
    else if radioTech = radioTechTdScdma then .tdscdma
    else .none

/-! ## Cell identities -/

def fillCellIdentityFromVoiceRegStateResponseString (numStrings : Nat)
    (response : List (Option Bytes)) : Except Fault CellIdentity := do
  let hexEntry index := convertResponseHexStringEntryToInt response index numStrings
  let entry index := convertResponseStringEntryToInt response index numStrings
  match getCellInfoTypeRadioTechnology (← readEntry response 3) with
  | .gsm =>
    let lac ← hexEntry 1
    let cid ← hexEntry 2
    return fillCellIdentityResponse (.gsm { RilCellIdentityGsm.unset with lac := lac, cid := cid })
  | .wcdma =>
    let lac ← hexEntry 1
    let cid ← hexEntry 2
    let psc ← entry 14
    return fillCellIdentityResponse
      (.wcdma { RilCellIdentityWcdma.unset with lac := lac, cid := cid, psc := psc })
  | .tdscdma =>
    let lac ← hexEntry 1
    let cid ← hexEntry 2
    return fillCellIdentityResponse
      (.tdscdma { RilCellIdentityTdscdma.unset with lac := lac, cid := cid })
  | .cdma =>
    let basestationId ← entry 4
    let latitude ← entry 5
    let longitude ← entry 6
    let systemId ← entry 8
    let networkId ← entry 9
    return fillCellIdentityResponse
      (.cdma ⟨networkId, systemId, basestationId, longitude, latitude⟩)
  | .lte =>
    let tac ← hexEntry 1
    let ci ← hexEntry 2
    return fillCellIdentityResponse (.lte { RilCellIdentityLte.unset with tac := tac, ci := ci })
  | .none => return fillCellIdentityResponse .none

def fillCellIdentityFromDataRegStateResponseString (numStrings : Nat)
    (response : List (Option Bytes)) : Except Fault CellIdentity := do
  let hexEntry index := convertResponseHexStringEntryToInt response index numStrings
  let entry index := convertResponseStringEntryToInt response index numStrings
  -- the last two of 13 strings; otherwise what `memset` left
  let plmnEntry index : Except Fault Int32 := if numStrings ≥ 13 then entry index else return -1
  match getCellInfoTypeRadioTechnology (← readEntry response 3) with
  | .gsm =>
    let lac ← hexEntry 1
    let cid ← hexEntry 2
    let mcc ← plmnEntry 11
    let mnc ← plmnEntry 12
    return fillCellIdentityResponse
      (.gsm { RilCellIdentityGsm.unset with mcc := mcc, mnc := mnc, lac := lac, cid := cid })
  | .wcdma =>
    let lac ← hexEntry 1
    let cid ← hexEntry 2
    let mcc ← plmnEntry 11
    let mnc ← plmnEntry 12
    return fillCellIdentityResponse
      (.wcdma { RilCellIdentityWcdma.unset with mcc := mcc, mnc := mnc, lac := lac, cid := cid })
  | .tdscdma =>
    let lac ← hexEntry 1
    let cid ← hexEntry 2
    let mcc ← plmnEntry 11
    let mnc ← plmnEntry 12
    return fillCellIdentityResponse
      (.tdscdma
        { RilCellIdentityTdscdma.unset with mcc := mcc, mnc := mnc, lac := lac, cid := cid })
  | .lte =>
    let tac ← entry 6
    let pci ← entry 7
    let ci ← entry 8
    let mcc ← plmnEntry 11
    let mnc ← plmnEntry 12
    return fillCellIdentityResponse
      (.lte
        { RilCellIdentityLte.unset with
          mcc := mcc
          mnc := mnc
          tac := tac
          pci := pci
          ci := ci })
  | .cdma => return fillCellIdentityResponse (.cdma .unset)
  | .none => return fillCellIdentityResponse .none

/-! ## Responses -/

structure VoiceRegStateResult where
  regState : Int32
  rat : Int32
  cssSupported : Bool
  roamingIndicator : Int32
  systemIsInPrl : Int32
  defaultRoamingIndicator : Int32
  reasonForDenial : Int32
  cellIdentity : CellIdentity

def VoiceRegStateResult.empty : VoiceRegStateResult := ⟨0, 0, false, 0, 0, 0, 0, .empty⟩

/-- The response that is sent, if there is an object to send it to. -/
def getVoiceRegistrationStateResponse (mRadioResponse : Bool) (serial responseType : Int32)
    (e : RilErrno) (response : StringArray) :
    Except Fault (Option (RadioResponseInfo × VoiceRegStateResult)) :=
  if mRadioResponse then
    let responseInfo := populateResponseInfo serial responseType e
    let numStrings := response.numStrings
    match response.entries with
    | none => return some (responseInfo.invalidate e, .empty)
    | some resp =>
      if numStrings ≠ 15 then return some (responseInfo.invalidate e, .empty)
      else do
        let regState := atoiNullHandledDef (← readEntry resp 0) 4
        let rat := atoiNullHandled (← readEntry resp 3)
        let cssSupported := atoiNullHandledDef (← readEntry resp 7) 0 != 0
        let roamingIndicator := atoiNullHandled (← readEntry resp 10)
        let systemIsInPrl := atoiNullHandledDef (← readEntry resp 11) 0
        let defaultRoamingIndicator := atoiNullHandledDef (← readEntry resp 12) 0
        let reasonForDenial := atoiNullHandledDef (← readEntry resp 13) 0
        let cellIdentity ← fillCellIdentityFromVoiceRegStateResponseString numStrings resp
        return some (responseInfo, ⟨regState, rat, cssSupported, roamingIndicator, systemIsInPrl,
          defaultRoamingIndicator, reasonForDenial, cellIdentity⟩)
  else return none

structure DataRegStateResult where
  regState : Int32
  rat : Int32
  reasonDataDenied : Int32
  maxDataCalls : Int32
  cellIdentity : CellIdentity

def DataRegStateResult.empty : DataRegStateResult := ⟨0, 0, 0, 0, .empty⟩

/-- The response that is sent, if there is an object to send it to. -/
def getDataRegistrationStateResponse (mRadioResponse : Bool) (serial responseType : Int32)
    (e : RilErrno) (response : StringArray) :
    Except Fault (Option (RadioResponseInfo × DataRegStateResult)) :=
  if mRadioResponse then
    let responseInfo := populateResponseInfo serial responseType e
    match response.entries with
    | none => return some (responseInfo.invalidate e, .empty)
    | some resp =>
      let numStrings := response.numStrings
      if numStrings ≠ 6 ∧ numStrings ≠ 11 ∧ numStrings ≠ 13 then
        return some (responseInfo.invalidate e, .empty)
      else do
        let regState := atoiNullHandledDef (← readEntry resp 0) 4
        let rat := atoiNullHandledDef (← readEntry resp 3) 0
        let reasonDataDenied := atoiNullHandled (← readEntry resp 4)
        let maxDataCalls := atoiNullHandledDef (← readEntry resp 5) 1
        let cellIdentity ← fillCellIdentityFromDataRegStateResponseString numStrings resp
        return some (responseInfo, ⟨regState, rat, reasonDataDenied, maxDataCalls, cellIdentity⟩)
  else return none

/-! ## What is reported -/

inductive RegistrationKind where
  | voice
  | data
  deriving DecidableEq, Repr

def CellIdentity.location (identity : CellIdentity) : Option Int32 :=
  match identity.cellInfoType with
  | .gsm => identity.cellIdentityGsm.head?.map (·.lac)
  | .wcdma => identity.cellIdentityWcdma.head?.map (·.lac)
  | .tdscdma => identity.cellIdentityTdscdma.head?.map (·.lac)
  | .lte => identity.cellIdentityLte.head?.map (·.tac)
  | .cdma | .none => none

def CellIdentity.cellId (identity : CellIdentity) : Option Int32 :=
  match identity.cellInfoType with
  | .gsm => identity.cellIdentityGsm.head?.map (·.cid)
  | .wcdma => identity.cellIdentityWcdma.head?.map (·.cid)
  | .tdscdma => identity.cellIdentityTdscdma.head?.map (·.cid)
  | .lte => identity.cellIdentityLte.head?.map (·.ci)
  | .cdma | .none => none

def CellIdentity.physicalCellId (identity : CellIdentity) : Option Int32 :=
  identity.cellIdentityLte.head?.map (·.pci)

/-- A field that is taken from the entry at `index`, a numeral of a value up to `max`. -/
structure ReportedField where
  index : Nat
  base : Nat
  max : Nat
  value : CellIdentity → Option Int32

/-- No entry is reported as -1, a numeral as the 32 bits of its value. -/
structure ReportedField.Reports (field : ReportedField) (resp : List (Option Bytes))
    (value : Int32) : Prop where
  missing : resp[field.index]?.join = none → value = -1
  spelled : ∀ str n, resp[field.index]?.join = some str → Spells field.base (cStr str) n →
    n ≤ field.max → value.toUInt32.toNat = n

namespace RegistrationKind

/-- The numbers of strings that are accepted. -/
def Accepts : RegistrationKind → Nat → Prop
  | voice, n => n = 15
  | data, n => n = 6 ∨ n = 11 ∨ n = 13

def hexFields : List ReportedField :=
  [⟨1, 16, 0xffff, CellIdentity.location⟩, ⟨2, 16, 0xffffffff, CellIdentity.cellId⟩]

def decimalFields : List ReportedField :=
  [⟨6, 10, 2 ^ 31 - 1, CellIdentity.location⟩, ⟨7, 10, 2 ^ 31 - 1, CellIdentity.physicalCellId⟩,
    ⟨8, 10, 2 ^ 31 - 1, CellIdentity.cellId⟩]

def fields : RegistrationKind → RilCellInfoType → List ReportedField
  | data, .lte => decimalFields
  | _, .gsm | _, .wcdma | _, .tdscdma | voice, .lte => hexFields
  | _, .cdma | _, .none => []

def fillCellIdentity : RegistrationKind → Nat → List (Option Bytes) → Except Fault CellIdentity
  | voice => fillCellIdentityFromVoiceRegStateResponseString
  | data => fillCellIdentityFromDataRegStateResponseString

/-- The cell identity of the response. -/
def cellIdentity (kind : RegistrationKind) (serial responseType : Int32) (e : RilErrno)
    (response : StringArray) : Except Fault (Option CellIdentity) :=
  match kind with
  | voice => (getVoiceRegistrationStateResponse true serial responseType e response).map
      (Option.map (·.2.cellIdentity))
  | data => (getDataRegistrationStateResponse true serial responseType e response).map
      (Option.map (·.2.cellIdentity))

/-- No fault, and every field of the radio technology is reported. -/
def RegistrationRight (kind : RegistrationKind) (response : StringArray)
    (resp : List (Option Bytes)) : Prop :=
  ∀ serial responseType e, ∃ identity,
    kind.cellIdentity serial responseType e response = .ok (some identity) ∧
      ∀ field ∈ kind.fields (getCellInfoTypeRadioTechnology resp[3]?.join),
        ∃ value, field.value identity = some value ∧ field.Reports resp value

end RegistrationKind

/-! ## Reading the entries -/

/-- What is made of an entry. -/
def entryValue (base : Nat) (entry : Option Bytes) : Int32 :=
  match entry with
  | some str => strtol base (cStr str)
  | none => -1

theorem readEntry_of_lt {resp : List (Option Bytes)} {i : Int} (hi : 0 ≤ i)
    (hlt : i.toNat < resp.length) : readEntry resp i = .ok resp[i.toNat]?.join := by
  rw [readEntry, if_neg (by omega), List.getElem?_eq_getElem hlt]
  rfl

/-- The check of the length keeps every index in bounds. -/
theorem convertEntryToInt_eq (base : Nat) (resp : List (Option Bytes)) (index : Nat) :
    convertEntryToInt base resp index resp.length = .ok (entryValue base resp[index]?.join) := by
  unfold convertEntryToInt
  by_cases hlt : index < resp.length
  · rw [if_pos hlt, readEntry_of_lt (by omega) (by omega), Int.toNat_natCast]
    cases resp[index]?.join <;> rfl
  · rw [if_neg hlt, List.getElem?_eq_none (by omega)]
    rfl

theorem ok_bind {ε α β : Type} (a : α) (f : α → Except ε β) : (Except.ok a >>= f) = f a := rfl

namespace RegistrationKind

/-- The fields hold what is made of their entries. -/
theorem fillCellIdentity_eq (kind : RegistrationKind) {resp : List (Option Bytes)}
    (hlength : 3 < resp.length) : ∃ identity,
      kind.fillCellIdentity resp.length resp = .ok identity ∧
        ∀ field ∈ kind.fields (getCellInfoTypeRadioTechnology resp[3]?.join),
          field.value identity = some (entryValue field.base resp[field.index]?.join) := by
  have hread : readEntry resp 3 = .ok resp[3]?.join := readEntry_of_lt (by omega) hlength
  cases kind with
  | voice =>
    unfold fillCellIdentity fillCellIdentityFromVoiceRegStateResponseString
    simp only [convertResponseHexStringEntryToInt, convertResponseStringEntryToInt,
      convertEntryToInt_eq, hread, ok_bind]
    cases getCellInfoTypeRadioTechnology resp[3]?.join with
    | none | cdma => exact ⟨_, rfl, by simp [fields]⟩
    | gsm | lte | wcdma | tdscdma =>
      exact ⟨_, rfl, List.forall_mem_cons.mpr ⟨rfl, List.forall_mem_singleton.mpr rfl⟩⟩
  | data =>
    unfold fillCellIdentity fillCellIdentityFromDataRegStateResponseString
    simp only [convertResponseHexStringEntryToInt, convertResponseStringEntryToInt,
      convertEntryToInt_eq, hread, ok_bind]
    by_cases hplmn : resp.length ≥ 13
    all_goals
      simp only [hplmn, if_true, if_false, ok_bind, pure_bind]
      cases getCellInfoTypeRadioTechnology resp[3]?.join with
      | none | cdma => exact ⟨_, rfl, by simp [fields]⟩
      | gsm | wcdma | tdscdma =>
        exact ⟨_, rfl, List.forall_mem_cons.mpr ⟨rfl, List.forall_mem_singleton.mpr rfl⟩⟩
      | lte =>
        exact ⟨_, rfl, List.forall_mem_cons.mpr ⟨rfl, List.forall_mem_cons.mpr
          ⟨rfl, List.forall_mem_singleton.mpr rfl⟩⟩⟩

/-- An array of an accepted length is read without a fault. -/
theorem cellIdentity_eq (kind : RegistrationKind) {response : StringArray}
    {resp : List (Option Bytes)} (hresp : response.entries = some resp)
    (haccepts : kind.Accepts resp.length) (serial responseType : Int32) (e : RilErrno) :
    kind.cellIdentity serial responseType e response =
      (kind.fillCellIdentity resp.length resp).map some := by
  have hnum := response.numStrings_eq hresp
  cases kind with
  | voice =>
    have hlength : resp.length = 15 := haccepts
    unfold cellIdentity getVoiceRegistrationStateResponse
    rw [if_pos rfl, hresp, hnum]
    dsimp only
    rw [if_neg (by omega)]
    simp (disch := omega) only [readEntry_of_lt, ok_bind, fillCellIdentity]
    cases fillCellIdentityFromVoiceRegStateResponseString resp.length resp <;> rfl
  | data =>
    have hlength : resp.length = 6 ∨ resp.length = 11 ∨ resp.length = 13 := haccepts
    unfold cellIdentity getDataRegistrationStateResponse
    rw [if_pos rfl, hresp, hnum]
    dsimp only
    rw [if_neg (by omega)]
    simp (disch := omega) only [readEntry_of_lt, ok_bind, fillCellIdentity]
    cases fillCellIdentityFromDataRegStateResponseString resp.length resp <;> rfl

/-! ## Which values are reported -/

/-- The value of a numeral is reported exactly when it is not above the largest `int`. -/
theorem reports_iff {field : ReportedField} {resp : List (Option Bytes)} (hbase : field.base ≤ 16) :
    field.Reports resp (entryValue field.base resp[field.index]?.join) ↔
      ∀ str n, resp[field.index]?.join = some str → Spells field.base (cStr str) n →
        n ≤ field.max → n < 2 ^ 31 := by
  constructor
  · intro h str n hentry hspells hmax
    have hvalue := h.spelled str n hentry hspells hmax
    rw [hentry] at hvalue
    exact (toNat_strtol_iff hbase hspells).mp hvalue
  · refine fun h => ⟨fun hnone => by rw [hnone]; rfl, fun str n hentry hspells hmax => ?_⟩
    rw [hentry]
    exact (toNat_strtol_iff hbase hspells).mpr (h str n hentry hspells hmax)

theorem base_le_of_mem_fields {kind : RegistrationKind} {type : RilCellInfoType}
    {field : ReportedField} (h : field ∈ kind.fields type) : field.base ≤ 16 := by
  have hhex : ∀ field ∈ hexFields, field.base ≤ 16 := by simp [hexFields]
  have hdecimal : ∀ field ∈ decimalFields, field.base ≤ 16 := by simp [decimalFields]
  cases kind <;> cases type <;>
    first
    | exact hhex field h
    | exact hdecimal field h
    | cases h

theorem length_of_accepts {kind : RegistrationKind} {n : Nat} (h : kind.Accepts n) : 3 < n := by
  cases kind with
  | voice =>
    have hlength : n = 15 := h
    omega
  | data =>
    have hlength : n = 6 ∨ n = 11 ∨ n = 13 := h
    omega

section Accepted

variable {kind : RegistrationKind} {response : StringArray} {resp : List (Option Bytes)}

theorem RegistrationRight.lt (h : kind.RegistrationRight response resp)
    (hresp : response.entries = some resp) (haccepts : kind.Accepts resp.length)
    {field : ReportedField}
    (hfield : field ∈ kind.fields (getCellInfoTypeRadioTechnology resp[3]?.join)) {str : Bytes}
    {n : Nat} (hentry : resp[field.index]?.join = some str)
    (hspells : Spells field.base (cStr str) n) (hmax : n ≤ field.max) : n < 2 ^ 31 := by
  obtain ⟨filled, hfill, hvalues⟩ := kind.fillCellIdentity_eq (length_of_accepts haccepts)
  obtain ⟨identity, hidentity, hfields⟩ := h 0 0 rilESuccess
  rw [cellIdentity_eq kind hresp haccepts, hfill] at hidentity
  cases hidentity
  obtain ⟨value, hvalue, hreports⟩ := hfields field hfield
  rw [hvalues field hfield] at hvalue
  cases hvalue
  exact (reports_iff (base_le_of_mem_fields hfield)).mp hreports str n hentry hspells hmax

/-- In an array of an accepted length the fields of the radio technology are all reported exactly
when none of their entries spells a value in its range above the largest `int`. -/
theorem registrationRight_iff (hresp : response.entries = some resp)
    (haccepts : kind.Accepts resp.length) : kind.RegistrationRight response resp ↔
      ∀ field ∈ kind.fields (getCellInfoTypeRadioTechnology resp[3]?.join), ∀ str n,
        resp[field.index]?.join = some str → Spells field.base (cStr str) n → n ≤ field.max →
          n < 2 ^ 31 := by
  constructor
  · intro h field hfield str n hentry hspells hmax
    exact h.lt hresp haccepts hfield hentry hspells hmax
  · intro h serial responseType e
    obtain ⟨filled, hfill, hvalues⟩ := kind.fillCellIdentity_eq (length_of_accepts haccepts)
    refine ⟨filled, ?_, fun field hfield => ⟨_, hvalues field hfield, ?_⟩⟩
    · rw [cellIdentity_eq kind hresp haccepts, hfill]
      rfl
    · exact (reports_iff (base_le_of_mem_fields hfield)).mpr (h field hfield)

end Accepted

/-- A voice registration with UMTS, a location area of `1a2b` and the given cell id. -/
def umtsEntries (cid : Option Bytes) : List (Option Bytes) :=
  [some [0x31], some [0x31, 0x61, 0x32, 0x62], cid, some [0x33]] ++ List.replicate 11 none

def umtsResponse (cid : Option Bytes) : StringArray where
  entries := some (umtsEntries cid)
  responseLen := 60
  length_eq l hl := by
    cases hl
    rfl

/-- Without a cell id. -/
theorem registration_reported : voice.RegistrationRight (umtsResponse none) (umtsEntries none) := by
  have haccepts : voice.Accepts (umtsEntries none).length := rfl
  refine (registrationRight_iff rfl haccepts).mpr fun field hfield str n hentry _ hmax => ?_
  obtain hlac | hcid := List.mem_cons.mp hfield
  · rw [hlac] at hmax
    exact Nat.lt_of_le_of_lt hmax (by decide)
  · rw [List.mem_singleton.mp hcid] at hentry
    cases hentry

/-- `"80000000"`. -/
def largeCid : Bytes := [0x38, 0x30, 0x30, 0x30, 0x30, 0x30, 0x30, 0x30]

/-- `strtol` stops at the largest `long`. -/
theorem cid_saturates : ¬∀ (kind : RegistrationKind) (response : StringArray)
    (resp : List (Option Bytes)), response.entries = some resp → kind.Accepts resp.length →
      kind.RegistrationRight response resp := by
  intro h
  have hright := h voice (umtsResponse (some largeCid)) _ rfl rfl
  have hspells : Spells 16 (cStr largeCid) (2 ^ 31) :=
    .inl ⟨by decide, by decide +kernel, by decide +kernel⟩
  have haccepts : voice.Accepts (umtsEntries (some largeCid)).length := rfl
  have hcid : (⟨2, 16, 0xffffffff, CellIdentity.cellId⟩ : ReportedField) ∈
      voice.fields (getCellInfoTypeRadioTechnology (umtsEntries (some largeCid))[3]?.join) :=
    List.mem_cons_of_mem _ List.mem_cons_self
  have hlt := hright.lt rfl haccepts hcid rfl hspells (by decide)
  exact absurd hlt (by decide)

end RegistrationKind

end Ril
end Huashan
