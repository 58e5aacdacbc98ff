import Huashan.Bytes
import Huashan.Ril.ResponseInfo

/-!
# Huashan.Ril.DataCalls

Lists of data calls. The vendor gives an array of records without saying of which version they are,
and `convertRilDataCallListToHal` takes the newest one whose size divides the length.

The array is its bytes on the 32-bit target; `memory` is the string at an address.

`decoded_iff`: a list of records is converted record by record exactly when it is empty or its
length is no multiple of the size of a newer record.
-/

namespace Huashan
namespace Ril

/-! ## Records -/

structure RilDataCallResponseV6 where
  status : Int32
  suggestedRetryTime : Int32
  cid : Int32
  active : Int32
  type : UInt32
  ifname : UInt32
  addresses : UInt32
  dnses : UInt32
  gateways : UInt32

structure RilDataCallResponseV9 extends RilDataCallResponseV6 where
  pcscf : UInt32

structure RilDataCallResponseV11 extends RilDataCallResponseV9 where
  mtu : Int32

inductive DataCallVersion where
  | v6
  | v9
  | v11
  deriving DecidableEq, Repr

namespace DataCallVersion

def Record : DataCallVersion → Type
  | v6 => RilDataCallResponseV6
  | v9 => RilDataCallResponseV9
  | v11 => RilDataCallResponseV11

/-- The words of a record. -/
def numWords : DataCallVersion → Nat
  | v6 => 9
  | v9 => 10
  | v11 => 11

/-- `sizeof` a record. -/
def size (v : DataCallVersion) : Nat := 4 * v.numWords

end DataCallVersion

def RilDataCallResponseV6.words (r : RilDataCallResponseV6) : List UInt32 :=
  [r.status.toUInt32, r.suggestedRetryTime.toUInt32, r.cid.toUInt32, r.active.toUInt32, r.type,
    r.ifname, r.addresses, r.dnses, r.gateways]

def RilDataCallResponseV9.words (r : RilDataCallResponseV9) : List UInt32 :=
  r.toRilDataCallResponseV6.words ++ [r.pcscf]

def RilDataCallResponseV11.words (r : RilDataCallResponseV11) : List UInt32 :=
  r.toRilDataCallResponseV9.words ++ [r.mtu.toUInt32]

def readV6 (word : Nat → UInt32) : RilDataCallResponseV6 where
  status := (word 0).toInt32
  suggestedRetryTime := (word 1).toInt32
  cid := (word 2).toInt32
  active := (word 3).toInt32
  type := word 4
  ifname := word 5
  addresses := word 6
  dnses := word 7
  gateways := word 8

def readV9 (word : Nat → UInt32) : RilDataCallResponseV9 :=
  { readV6 word with pcscf := word 9 }

def readV11 (word : Nat → UInt32) : RilDataCallResponseV11 :=
  { readV9 word with mtu := (word 10).toInt32 }

namespace DataCallVersion

def words : (v : DataCallVersion) → v.Record → List UInt32
  | v6 => RilDataCallResponseV6.words
  | v9 => RilDataCallResponseV9.words
  | v11 => RilDataCallResponseV11.words

/-- What a pointer to a record shows of the words there. -/
def read : (v : DataCallVersion) → (Nat → UInt32) → v.Record
  | v6 => readV6
  | v9 => readV9
  | v11 => readV11

/-- The bytes of a record. -/
def encode (v : DataCallVersion) (r : v.Record) : Bytes :=
  ((v.words r).map UInt32.toNat).flatMap (leBytes 4)

/-- The bytes of an array. -/
def encodeList (v : DataCallVersion) (records : List v.Record) : Bytes := records.flatMap v.encode

end DataCallVersion

/-! ## Conversion -/

structure SetupDataCallResult where
  status : Int32
  suggestedRetryTime : Int32
  cid : Int32
  active : Int32
  type : Bytes
  ifname : Bytes
  addresses : Bytes
  dnses : Bytes
  gateways : Bytes
  pcscf : Bytes
  mtu : Int32
  deriving DecidableEq, Repr

section Conversion

variable (memory : UInt32 → Bytes)

/-- The string of a `char *` of a record. -/
def charPtr (address : UInt32) : Option Bytes :=
  if address = 0 then none else some (memory address)

def convertRilDataCallV6ToHal (dcResponse : RilDataCallResponseV6) : SetupDataCallResult where
  status := dcResponse.status
  suggestedRetryTime := dcResponse.suggestedRetryTime
  cid := dcResponse.cid
  active := dcResponse.active
  type := convertCharPtrToHidlString (charPtr memory dcResponse.type)
  ifname := convertCharPtrToHidlString (charPtr memory dcResponse.ifname)
  addresses := convertCharPtrToHidlString (charPtr memory dcResponse.addresses)
  dnses := convertCharPtrToHidlString (charPtr memory dcResponse.dnses)
  gateways := convertCharPtrToHidlString (charPtr memory dcResponse.gateways)
  pcscf := []
  mtu := 0

def convertRilDataCallV9ToHal (dcResponse : RilDataCallResponseV9) : SetupDataCallResult :=
  { convertRilDataCallV6ToHal memory dcResponse.toRilDataCallResponseV6 with
    pcscf := convertCharPtrToHidlString (charPtr memory dcResponse.pcscf)
    mtu := 0 }

def convertRilDataCallV11ToHal (dcResponse : RilDataCallResponseV11) : SetupDataCallResult :=
  { convertRilDataCallV9ToHal memory dcResponse.toRilDataCallResponseV9 with
    mtu := dcResponse.mtu }

/-- The overloads of `convertRilDataCallToHal`. -/
def convertRilDataCallToHal : (v : DataCallVersion) → v.Record → SetupDataCallResult
  | .v6 => convertRilDataCallV6ToHal memory
  | .v9 => convertRilDataCallV9ToHal memory
  | .v11 => convertRilDataCallV11ToHal memory

/-- The words from an offset on. -/
def wordsAt (response : Bytes) (off : Nat) (j : Nat) : UInt32 :=
  UInt32.ofNat (u32At response (off + 4 * j))

/-- The loop over the records of a version. -/
def convertRecords (v : DataCallVersion) (response : Bytes) (num : Nat) :
    List SetupDataCallResult :=
  (List.range num).map fun i =>
    convertRilDataCallToHal memory v (v.read (wordsAt response (v.size * i)))

def convertRilDataCallListToHal (response : Bytes) (responseLen : Nat) :
    List SetupDataCallResult :=
  if responseLen % DataCallVersion.v11.size = 0 then
    convertRecords memory .v11 response (responseLen / DataCallVersion.v11.size)
  else if responseLen % DataCallVersion.v9.size = 0 then
    convertRecords memory .v9 response (responseLen / DataCallVersion.v9.size)
  else if responseLen % DataCallVersion.v6.size = 0 then
    convertRecords memory .v6 response (responseLen / DataCallVersion.v6.size)
  else []

/-- The check of the response that both functions make. -/
def isInvalidDataCallList (response : Option Bytes) (responseLen : Nat) : Bool :=
  (response.isNone && responseLen ≠ 0) ||
    (responseLen % DataCallVersion.v11.size ≠ 0 && responseLen % DataCallVersion.v9.size ≠ 0 &&
      responseLen % DataCallVersion.v6.size ≠ 0)

/-- The list of the `dataCallListChanged` that is sent, if any. -/
def dataCallListChangedInd (mRadioIndication : Bool) (response : Option Bytes)
    (responseLen : Nat) : Option (List SetupDataCallResult) :=
  if mRadioIndication then
    if isInvalidDataCallList response responseLen then none
    else some (convertRilDataCallListToHal memory (response.getD []) responseLen)
  else none

/-- The response that is sent, if there is an object to send it to. -/
def getDataCallListResponse (mRadioResponse : Bool) (serial responseType : Int32) (e : RilErrno)
    (response : Option Bytes) (responseLen : Nat) :
    Option (RadioResponseInfo × List SetupDataCallResult) :=
  if mRadioResponse then
    let responseInfo := populateResponseInfo serial responseType e
    if isInvalidDataCallList response responseLen then some (responseInfo.invalidate e, [])
    else some (responseInfo, convertRilDataCallListToHal memory (response.getD []) responseLen)
  else none

end Conversion

/-! ## Reading records back -/

theorem readV6_words (r : RilDataCallResponseV6) {word : Nat → UInt32}
    (h : ∀ j (hj : j < r.words.length), word j = r.words[j]) : readV6 word = r := by
  have hword : ∀ j (hj : j < 9), word j = r.words[j] := h
  simp [readV6, hword, RilDataCallResponseV6.words]

theorem readV9_words (r : RilDataCallResponseV9) {word : Nat → UInt32}
    (h : ∀ j (hj : j < r.words.length), word j = r.words[j]) : readV9 word = r := by
  have hword : ∀ j (hj : j < 10), word j = r.words[j] := h
  simp [readV9, readV6, hword, RilDataCallResponseV9.words, RilDataCallResponseV6.words]

theorem readV11_words (r : RilDataCallResponseV11) {word : Nat → UInt32}
    (h : ∀ j (hj : j < r.words.length), word j = r.words[j]) : readV11 word = r := by
  have hword : ∀ j (hj : j < 11), word j = r.words[j] := h
  simp [readV11, readV9, readV6, hword, RilDataCallResponseV11.words, RilDataCallResponseV9.words,
    RilDataCallResponseV6.words]

namespace DataCallVersion

theorem length_words (v : DataCallVersion) (r : v.Record) : (v.words r).length = v.numWords := by
  cases v <;> rfl

theorem length_encode (v : DataCallVersion) (r : v.Record) : (v.encode r).length = v.size := by
  rw [encode, length_flatMap_of_length (length_leBytes 4), List.length_map, length_words, size]

/-- A record is determined by its words. -/
theorem read_words (v : DataCallVersion) (r : v.Record) {word : Nat → UInt32}
    (h : ∀ j (hj : j < (v.words r).length), word j = (v.words r)[j]) : v.read word = r := by
  cases v with
  | v6 => exact readV6_words r h
  | v9 => exact readV9_words r h
  | v11 => exact readV11_words r h

theorem wordsAt_encodeList (v : DataCallVersion) {records : List v.Record} {i j : Nat}
    (hi : i < records.length) (hj : j < (v.words records[i]).length) :
    wordsAt (v.encodeList records) (v.size * i) j = (v.words records[i])[j] := by
  have hfits : 4 * j + 4 ≤ v.size := by
    rw [length_words] at hj
    unfold size
    omega
  have hwords : ∀ w ∈ (v.words records[i]).map UInt32.toNat, w < 2 ^ 32 := by
    intro w hw
    obtain ⟨word, _, rfl⟩ := List.mem_map.mp hw
    exact word.toNat_lt
  have hj' : j < ((v.words records[i]).map UInt32.toNat).length := by rwa [List.length_map]
  rw [wordsAt, ← u32At_slice _ hfits, encodeList, slice_flatMap v.length_encode hi, encode,
    u32At_flatMap hwords hj', List.getElem_map, UInt32.ofNat_toNat]

theorem convertRecords_encodeList (memory : UInt32 → Bytes) (v : DataCallVersion)
    (records : List v.Record) : convertRecords memory v (v.encodeList records) records.length =
      records.map (convertRilDataCallToHal memory v) := by
  apply List.ext_getElem
  · simp [convertRecords]
  · intro i hi hi'
    rw [List.length_map] at hi'
    simp only [convertRecords, List.getElem_map, List.getElem_range]
    rw [v.read_words records[i] fun j hj => v.wordsAt_encodeList hi' hj]

theorem length_convertRecords (memory : UInt32 → Bytes) (v : DataCallVersion) (response : Bytes)
    (num : Nat) : (convertRecords memory v response num).length = num := by
  rw [convertRecords, List.length_map, List.length_range]

/-! ## Which version is taken -/

/-- Both functions deliver the conversion of each record. -/
def Decoded (memory : UInt32 → Bytes) (v : DataCallVersion) (records : List v.Record) : Prop :=
  dataCallListChangedInd memory true (some (v.encodeList records)) (v.size * records.length) =
      some (records.map (convertRilDataCallToHal memory v)) ∧
    ∀ serial responseType e,
      getDataCallListResponse memory true serial responseType e (some (v.encodeList records))
        (v.size * records.length) = some (populateResponseInfo serial responseType e,
          records.map (convertRilDataCallToHal memory v))

/-- The length of `n` records is no multiple of the size of a newer record. -/
def Recognized : DataCallVersion → Nat → Prop
  | v6, n => ¬ 11 ∣ n ∧ ¬ 10 ∣ n
  | v9, n => ¬ 11 ∣ n
  | v11, _ => True

theorem isInvalidDataCallList_encodeList (v : DataCallVersion) (records : List v.Record) :
    isInvalidDataCallList (some (v.encodeList records)) (v.size * records.length) = false := by
  have hdvd : v.size * records.length % v.size = 0 := Nat.mul_mod_right _ _
  cases v <;> simp [isInvalidDataCallList, hdvd]

theorem decoded_iff_convert (memory : UInt32 → Bytes) (v : DataCallVersion)
    (records : List v.Record) : v.Decoded memory records ↔
      convertRilDataCallListToHal memory (v.encodeList records) (v.size * records.length) =
        records.map (convertRilDataCallToHal memory v) := by
  unfold Decoded dataCallListChangedInd getDataCallListResponse
  simp only [isInvalidDataCallList_encodeList, if_true, Bool.false_eq_true, if_false,
    Option.getD_some, Option.some.injEq, Prod.mk.injEq, true_and, forall_const, and_self]

/-- With the version of the records, all of them are converted. -/
theorem convertRecords_own (memory : UInt32 → Bytes) (v : DataCallVersion)
    (records : List v.Record) :
    convertRecords memory v (v.encodeList records) (v.size * records.length / v.size) =
      records.map (convertRilDataCallToHal memory v) := by
  have hsize : 0 < v.size := by cases v <;> decide
  rw [Nat.mul_div_cancel_left _ hsize, convertRecords_encodeList]

/-- With a newer version, there are fewer results than records. -/
theorem convertRecords_newer (memory : UInt32 → Bytes) {v w : DataCallVersion}
    (hnewer : v.size < w.size) {records : List v.Record} (hsome : records ≠ []) :
    convertRecords memory w (v.encodeList records) (v.size * records.length / w.size) ≠
      records.map (convertRilDataCallToHal memory v) := by
  intro h
  have hlength := congrArg List.length h
  rw [length_convertRecords, List.length_map] at hlength
  have hfewer : v.size * records.length < w.size * records.length :=
    Nat.mul_lt_mul_of_pos_right hnewer (List.length_pos_iff.mpr hsome)
  exact absurd hlength (Nat.ne_of_lt (Nat.div_lt_of_lt_mul hfewer))

theorem convert_recognized (memory : UInt32 → Bytes) {v : DataCallVersion}
    {records : List v.Record} (h : v.Recognized records.length) :
    convertRilDataCallListToHal memory (v.encodeList records) (v.size * records.length) =
      records.map (convertRilDataCallToHal memory v) := by
  have hown := v.convertRecords_own memory records
  have hdvd : v.size * records.length % v.size = 0 := Nat.mul_mod_right _ _
  unfold convertRilDataCallListToHal
  cases v with
  | v11 => rw [if_pos hdvd, hown]
  | v9 =>
    have h11 : v9.size * records.length % v11.size ≠ 0 := by
      intro hmod
      refine h ?_
      simp only [size, numWords] at hmod
      omega
    rw [if_neg h11, if_pos hdvd, hown]
  | v6 =>
    have h11 : v6.size * records.length % v11.size ≠ 0 := by
      intro hmod
      refine h.1 ?_
      simp only [size, numWords] at hmod
      omega
    have h9 : v6.size * records.length % v9.size ≠ 0 := by
      intro hmod
      refine h.2 ?_
      simp only [size, numWords] at hmod
      omega
    rw [if_neg h11, if_neg h9, if_pos hdvd, hown]

theorem convert_unrecognized (memory : UInt32 → Bytes) {v : DataCallVersion}
    {records : List v.Record} (hsome : records ≠ []) (h : ¬v.Recognized records.length) :
    convertRilDataCallListToHal memory (v.encodeList records) (v.size * records.length) ≠
      records.map (convertRilDataCallToHal memory v) := by
  unfold convertRilDataCallListToHal
  cases v with
  | v11 => exact absurd trivial h
  | v9 =>
    have h11 : v9.size * records.length % v11.size = 0 := by
      obtain ⟨k, hk⟩ := not_not.mp h
      simp only [size, numWords]
      omega
    rw [if_pos h11]
    exact convertRecords_newer memory (by decide) hsome
  | v6 =>
    by_cases h11 : v6.size * records.length % v11.size = 0
    · rw [if_pos h11]
      exact convertRecords_newer memory (by decide) hsome
    · have h9 : v6.size * records.length % v9.size = 0 := by
        simp only [Recognized, not_and_or, not_not] at h
        simp only [size, numWords] at h11 ⊢
        omega
      rw [if_neg h11, if_pos h9]
      exact convertRecords_newer memory (by decide) hsome

/-- Every list of records is delivered record by record exactly when it is empty or its length is
no multiple of the size of a newer record. -/
theorem decoded_iff (memory : UInt32 → Bytes) (v : DataCallVersion) (records : List v.Record) :
    v.Decoded memory records ↔ records = [] ∨ v.Recognized records.length := by
  rw [decoded_iff_convert]
  constructor
  · intro hconvert
    by_contra hcond
    rw [not_or] at hcond
    exact convert_unrecognized memory hcond.1 hcond.2 hconvert
  · rintro (rfl | h)
    · cases v <;> rfl
    · exact convert_recognized memory h

/-- Eleven records of version 6 are taken for nine of version 11. -/
theorem taken_for_newer : ¬∀ (memory : UInt32 → Bytes) (v : DataCallVersion)
    (records : List v.Record), v.Decoded memory records := by
  intro h
  have hdecoded := h (fun _ => []) v6 (List.replicate 11 (⟨0, 0, 0, 0, 0, 0, 0, 0, 0⟩ :
    RilDataCallResponseV6))
  refine convert_unrecognized _ ?_ ?_ ((decoded_iff_convert _ _ _).mp hdecoded)
  · exact List.cons_ne_nil _ _
  · exact fun hrecognized => hrecognized.1 ⟨1, rfl⟩

end DataCallVersion
end Ril
end Huashan
