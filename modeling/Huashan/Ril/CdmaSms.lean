import Huashan.Ril.ResponseInfo

/-!
# Huashan.Ril.CdmaSms

CDMA messages. `constructCdmaSms` copies a message of HIDL to the structure of the vendor, which has
arrays of a fixed size and a count for each of them; `cdmaNewSmsInd` reads such a structure back.

The counts take the sizes of the vectors as they are, cut to the width of the count; only the loops
are limited to the arrays. `keepsMessage_iff`: the counts say how much was copied, and the message
is read back as far as the arrays go, exactly when each vector fits its array, or has a size that
the count cuts to the size of the array.
-/

namespace Huashan
namespace Ril

abbrev rilCdmaSmsAddressMax : Nat := 36
abbrev rilCdmaSmsSubaddressMax : Nat := 36
abbrev rilCdmaSmsBearerDataMax : Nat := 255

/-! ## The vendor's structures -/

structure RilCdmaSmsAddress where
  digitMode : Int32
  numberMode : Int32
  numberType : Int32
  numberPlan : Int32
  numberOfDigits : UInt8
  digits : Vector UInt8 rilCdmaSmsAddressMax

structure RilCdmaSmsSubaddress where
  subaddressType : Int32
  odd : UInt8
  numberOfDigits : UInt8
  digits : Vector UInt8 rilCdmaSmsSubaddressMax

structure RilCdmaSmsMessage where
  uTeleserviceID : Int32
  bIsServicePresent : UInt8
  uServicecategory : Int32
  sAddress : RilCdmaSmsAddress
  sSubAddress : RilCdmaSmsSubaddress
  uBearerDataLen : Int32
  aBearerData : Vector UInt8 rilCdmaSmsBearerDataMax

/-! ## The structures of HIDL -/

structure CdmaSmsAddress where
  digitMode : Int32
  numberMode : Int32
  numberType : Int32
  numberPlan : Int32
  digits : Bytes

structure CdmaSmsSubaddress where
  subaddressType : Int32
  odd : Bool
  digits : Bytes

structure CdmaSmsMessage where
  teleserviceId : Int32
  isServicePresent : Bool
  serviceCategory : Int32
  address : CdmaSmsAddress
  subAddress : CdmaSmsSubaddress
  bearerData : Bytes

/-! ## Conversion -/

/-- The loop `for (int i = 0; i < digitLimit; i++)`, up to `i`. -/
def copyDigits {n : Nat} (digits : Bytes) (array : Vector UInt8 n) :
    Nat → Except Fault (Vector UInt8 n)
  | 0 => .ok array
  | i + 1 =>
    match copyDigits digits array i, digits[i]? with
    | .ok array, some digit => if h : i < n then .ok (array.set i digit) else .error .outOfBounds
    | .ok _, none => .error .outOfBounds
    | .error e, _ => .error e

def constructCdmaSms (rcsm : RilCdmaSmsMessage) (sms : CdmaSmsMessage) :
    Except Fault RilCdmaSmsMessage := do
  let addressCount := UInt8.ofNat sms.address.digits.length
  let digitLimit : Int := min addressCount.toNat rilCdmaSmsAddressMax
  let addressDigits ← copyDigits sms.address.digits rcsm.sAddress.digits digitLimit.toNat
  let subAddressCount := UInt8.ofNat sms.subAddress.digits.length
  let digitLimit : Int := min subAddressCount.toNat rilCdmaSmsSubaddressMax
  let subAddressDigits ← copyDigits sms.subAddress.digits rcsm.sSubAddress.digits digitLimit.toNat
  let bearerDataLen := Int32.ofNat sms.bearerData.length
  let digitLimit : Int := min bearerDataLen.toInt rilCdmaSmsBearerDataMax
  let bearerData ← copyDigits sms.bearerData rcsm.aBearerData digitLimit.toNat
  return {
    uTeleserviceID := sms.teleserviceId
    bIsServicePresent := if sms.isServicePresent then 1 else 0
    uServicecategory := sms.serviceCategory
    sAddress := {
      digitMode := sms.address.digitMode
      numberMode := sms.address.numberMode
      numberType := sms.address.numberType
      numberPlan := sms.address.numberPlan
      numberOfDigits := addressCount
      digits := addressDigits }
    sSubAddress := {
      subaddressType := sms.subAddress.subaddressType
      odd := if sms.subAddress.odd then 1 else 0
      numberOfDigits := subAddressCount
      digits := subAddressDigits }
    uBearerDataLen := bearerDataLen
    aBearerData := bearerData }

/-- A vector over the first elements of an array; a negative size is a large one. -/
def setToExternal {n : Nat} (data : Vector UInt8 n) (size : Int) : Except Fault Bytes :=
  if 0 ≤ size ∧ size ≤ n then .ok (data.toList.take size.toNat) else .error .outOfBounds

/-- What is sent to the client. There is no response when its length is not that of the
structure. -/
def cdmaNewSmsInd (mRadioIndication : Bool) (response : Option RilCdmaSmsMessage) :
    Except Fault (Option CdmaSmsMessage) :=
  match mRadioIndication, response with
  | true, some rilMsg => do
    let digitLimit : Int := min rilMsg.sAddress.numberOfDigits.toNat rilCdmaSmsAddressMax
    let addressDigits ← setToExternal rilMsg.sAddress.digits digitLimit
    let digitLimit : Int := min rilMsg.sSubAddress.numberOfDigits.toNat rilCdmaSmsSubaddressMax
    let subAddressDigits ← setToExternal rilMsg.sSubAddress.digits digitLimit
    let digitLimit : Int := min rilMsg.uBearerDataLen.toInt rilCdmaSmsBearerDataMax
    let bearerData ← setToExternal rilMsg.aBearerData digitLimit
    return some {
      teleserviceId := rilMsg.uTeleserviceID
      isServicePresent := rilMsg.bIsServicePresent != 0
      serviceCategory := rilMsg.uServicecategory
      address := {
        digitMode := rilMsg.sAddress.digitMode
        numberMode := rilMsg.sAddress.numberMode
        numberType := rilMsg.sAddress.numberType
        numberPlan := rilMsg.sAddress.numberPlan
        digits := addressDigits }
      subAddress := {
        subaddressType := rilMsg.sSubAddress.subaddressType
        odd := rilMsg.sSubAddress.odd != 0
        digits := subAddressDigits }
      bearerData := bearerData }
  | _, _ => .ok none

/-! ## Counts and contents -/

/-- The first `k` elements come from the vector, the others were there before. -/
def Copied {n : Nat} (digits : Bytes) (before : Vector UInt8 n) (k : Nat) (after : Vector UInt8 n) :
    Prop :=
  ∀ i (h : i < n), if i < k then digits[i]? = some after[i] else after[i] = before[i]

/-- The count is the number of elements that were filled. -/
def CountsFilled {n : Nat} (digits : Bytes) (before : Vector UInt8 n) (count : Int)
    (after : Vector UInt8 n) : Prop :=
  ∃ k : Nat, count = k ∧ k ≤ n ∧ Copied digits before k after

/-- The counts are right, and the vectors are read back as far as the arrays go. -/
def KeepsMessage (rcsm : RilCdmaSmsMessage) (sms : CdmaSmsMessage) : Prop :=
  ∃ out msg, constructCdmaSms rcsm sms = .ok out ∧ cdmaNewSmsInd true (some out) = .ok (some msg) ∧
    CountsFilled sms.address.digits rcsm.sAddress.digits out.sAddress.numberOfDigits.toNat
      out.sAddress.digits ∧
    CountsFilled sms.subAddress.digits rcsm.sSubAddress.digits
      out.sSubAddress.numberOfDigits.toNat out.sSubAddress.digits ∧
    CountsFilled sms.bearerData rcsm.aBearerData out.uBearerDataLen.toInt out.aBearerData ∧
    msg.address.digits = sms.address.digits.take rilCdmaSmsAddressMax ∧
    msg.subAddress.digits = sms.subAddress.digits.take rilCdmaSmsSubaddressMax ∧
    msg.bearerData = sms.bearerData.take rilCdmaSmsBearerDataMax

/-- The vector fits, or a count of this width takes it for one that just fits. -/
def FitsCounted (width max : Nat) (v : Bytes) : Prop :=
  v.length ≤ max ∨ v.length % 2 ^ width = max

/-! ## One array -/

section
variable {n : Nat} {digits : Bytes} {before after : Vector UInt8 n}

/-- The loop stays in the array and in the vector. -/
theorem copyDigits_copied (digits : Bytes) (before : Vector UInt8 n) {k : Nat} (hk : k ≤ n)
    (hk' : k ≤ digits.length) :
    ∃ after, copyDigits digits before k = .ok after ∧ Copied digits before k after := by
  induction k with
  | zero => exact ⟨before, rfl, fun i _ => by simp⟩
  | succ k ih =>
    obtain ⟨after, hafter, hcopied⟩ := ih (by omega) (by omega)
    have hdigit : digits[k]? = some digits[k] := List.getElem?_eq_getElem (by omega)
    refine ⟨after.set k digits[k], ?_, ?_⟩
    · simp only [copyDigits, hafter, hdigit, dif_pos (show k < n by omega)]
    · intro i hi
      have hi' := hcopied i hi
      by_cases hik : i = k
      · subst hik
        simp [hdigit]
      · rw [Vector.getElem_set_ne _ _ (by omega)]
        by_cases hlt : i < k
        · rw [if_pos (by omega)]
          rwa [if_pos hlt] at hi'
        · rw [if_neg (by omega)]
          rwa [if_neg hlt] at hi'

theorem Copied.take {k : Nat} (h : Copied digits before k after) (hk : k ≤ n) :
    after.toList.take k = digits.take k := by
  apply List.ext_getElem?
  intro i
  by_cases hi : i < k
  · have hcopied := h i (by omega)
    rw [if_pos hi] at hcopied
    rw [List.getElem?_take_of_lt hi, List.getElem?_take_of_lt hi, hcopied]
    simp [show i < n by omega]
  · rw [List.getElem?_take_eq_none (by omega), List.getElem?_take_eq_none (by omega)]

/-- With a count of which the loop copies as much as the array holds. -/
theorem Copied.keeps_iff {count : Int} (h : Copied digits before (min count n).toNat after)
    (hcount : count ≤ digits.length) :
    (CountsFilled digits before count after ∧
        setToExternal after (min count n) = .ok (digits.take n)) ↔
      count = min digits.length n := by
  constructor
  · rintro ⟨⟨k, rfl, hk, _⟩, hread⟩
    have hmin : min (k : Int) n = k := by omega
    rw [hmin, setToExternal, if_pos (by omega), Int.toNat_natCast] at hread
    have hlength := congrArg List.length (Except.ok.inj hread)
    simp only [List.length_take, Vector.length_toList] at hlength
    omega
  · intro heq
    have hmin : (min count n).toNat = min digits.length n := by omega
    rw [hmin] at h
    refine ⟨⟨min digits.length n, heq, by omega, h⟩, ?_⟩
    rw [setToExternal, if_pos (by omega), hmin, h.take (by omega)]
    congr 1
    rw [List.take_eq_take_iff]
    omega

theorem toNat_ofNat_le (len : Nat) : (UInt8.ofNat len).toNat ≤ len := by
  rw [UInt8.toNat_ofNat']
  exact Nat.mod_le _ _

theorem toInt_ofNat_le (len : Nat) : (Int32.ofNat len).toInt ≤ len := by
  rw [Int32.toInt_ofNat', Int.bmod_def, show ((Int32.size : Nat) : Int) = 2 ^ 32 from rfl]
  omega

theorem toNat_ofNat_eq_min_iff (hn : n < 2 ^ 8) :
    ((UInt8.ofNat digits.length).toNat : Int) = min digits.length n ↔ FitsCounted 8 n digits := by
  rw [UInt8.toNat_ofNat', FitsCounted]
  omega

theorem toInt_ofNat_eq_min_iff (hn : n < 2 ^ 31) :
    (Int32.ofNat digits.length).toInt = min digits.length n ↔ FitsCounted 32 n digits := by
  rw [Int32.toInt_ofNat', Int.bmod_def, show ((Int32.size : Nat) : Int) = 2 ^ 32 from rfl,
    FitsCounted]
  omega

/-- An unsigned count of 8 bits. -/
theorem Copied.keeps_unsigned_iff {count : UInt8}
    (h : Copied digits before (min (count.toNat : Int) n).toNat after)
    (hcount : count = UInt8.ofNat digits.length) (hn : n < 2 ^ 8) :
    (CountsFilled digits before count.toNat after ∧
        setToExternal after (min (count.toNat : Int) n) = .ok (digits.take n)) ↔
      FitsCounted 8 n digits := by
  rw [h.keeps_iff (by rw [hcount]; exact_mod_cast toNat_ofNat_le _), hcount,
    toNat_ofNat_eq_min_iff hn]

/-- A signed count of 32 bits. -/
theorem Copied.keeps_signed_iff {count : Int32}
    (h : Copied digits before (min count.toInt n).toNat after)
    (hcount : count = Int32.ofNat digits.length) (hn : n < 2 ^ 31) :
    (CountsFilled digits before count.toInt after ∧
        setToExternal after (min count.toInt n) = .ok (digits.take n)) ↔
      FitsCounted 32 n digits := by
  rw [h.keeps_iff (by rw [hcount]; exact toInt_ofNat_le _), hcount, toInt_ofNat_eq_min_iff hn]

end

/-! ## The whole message -/

/-- What `constructCdmaSms` makes of a message. -/
structure Constructed (rcsm : RilCdmaSmsMessage) (sms : CdmaSmsMessage)
    (out : RilCdmaSmsMessage) : Prop where
  addressCount : out.sAddress.numberOfDigits = UInt8.ofNat sms.address.digits.length
  subAddressCount : out.sSubAddress.numberOfDigits = UInt8.ofNat sms.subAddress.digits.length
  bearerDataLen : out.uBearerDataLen = Int32.ofNat sms.bearerData.length
  address : Copied sms.address.digits rcsm.sAddress.digits
    (min (out.sAddress.numberOfDigits.toNat : Int) rilCdmaSmsAddressMax).toNat out.sAddress.digits
  subAddress : Copied sms.subAddress.digits rcsm.sSubAddress.digits
    (min (out.sSubAddress.numberOfDigits.toNat : Int) rilCdmaSmsSubaddressMax).toNat
    out.sSubAddress.digits
  bearerData : Copied sms.bearerData rcsm.aBearerData
    (min out.uBearerDataLen.toInt rilCdmaSmsBearerDataMax).toNat out.aBearerData

/-- The copy is made, whatever the sizes are. -/
theorem constructCdmaSms_constructed (rcsm : RilCdmaSmsMessage) (sms : CdmaSmsMessage) :
    ∃ out, constructCdmaSms rcsm sms = .ok out ∧ Constructed rcsm sms out := by
  have haddress := toNat_ofNat_le sms.address.digits.length
  have hsubAddress := toNat_ofNat_le sms.subAddress.digits.length
  have hbearerData := toInt_ofNat_le sms.bearerData.length
  obtain ⟨digits, hdigits, hcopied⟩ := copyDigits_copied sms.address.digits rcsm.sAddress.digits
    (k := (min ((UInt8.ofNat sms.address.digits.length).toNat : Int) rilCdmaSmsAddressMax).toNat)
    (by omega) (by omega)
  obtain ⟨subDigits, hsubDigits, hsubCopied⟩ :=
    copyDigits_copied sms.subAddress.digits rcsm.sSubAddress.digits
    (k := (min ((UInt8.ofNat sms.subAddress.digits.length).toNat : Int)
      rilCdmaSmsSubaddressMax).toNat) (by omega) (by omega)
  obtain ⟨data, hdata, hdataCopied⟩ := copyDigits_copied sms.bearerData rcsm.aBearerData
    (k := (min (Int32.ofNat sms.bearerData.length).toInt rilCdmaSmsBearerDataMax).toNat)
    (by omega) (by omega)
  refine ⟨_, by simp only [constructCdmaSms, hdigits, hsubDigits, hdata]; rfl, ?_⟩
  exact ⟨rfl, rfl, rfl, hcopied, hsubCopied, hdataCopied⟩

/-- A message is read back when its three vectors are. -/
theorem cdmaNewSmsInd_eq_some {rilMsg : RilCdmaSmsMessage} {address subAddress data : Bytes} :
    (∃ msg, cdmaNewSmsInd true (some rilMsg) = .ok (some msg) ∧ msg.address.digits = address ∧
      msg.subAddress.digits = subAddress ∧ msg.bearerData = data) ↔
    setToExternal rilMsg.sAddress.digits
      (min (rilMsg.sAddress.numberOfDigits.toNat : Int) rilCdmaSmsAddressMax) = .ok address ∧
    setToExternal rilMsg.sSubAddress.digits
      (min (rilMsg.sSubAddress.numberOfDigits.toNat : Int) rilCdmaSmsSubaddressMax) =
        .ok subAddress ∧
    setToExternal rilMsg.aBearerData (min rilMsg.uBearerDataLen.toInt rilCdmaSmsBearerDataMax) =
      .ok data := by
  constructor
  · rintro ⟨msg, hmsg, rfl, rfl, rfl⟩
    obtain ⟨_, haddress, hmsg⟩ := bind_eq_ok hmsg
    obtain ⟨_, hsubAddress, hmsg⟩ := bind_eq_ok hmsg
    obtain ⟨_, hdata, hmsg⟩ := bind_eq_ok hmsg
    cases hmsg
    exact ⟨haddress, hsubAddress, hdata⟩
  · rintro ⟨haddress, hsubAddress, hdata⟩
    refine ⟨_, by simp only [cdmaNewSmsInd, haddress, hsubAddress, hdata]; rfl, ?_⟩
    exact ⟨rfl, rfl, rfl⟩

/-- The counts are right and the message is read back exactly when each vector fits its array, or
has a size that the count cuts to that of the array. -/
theorem keepsMessage_iff (rcsm : RilCdmaSmsMessage) (sms : CdmaSmsMessage) :
    KeepsMessage rcsm sms ↔
      FitsCounted 8 rilCdmaSmsAddressMax sms.address.digits ∧
      FitsCounted 8 rilCdmaSmsSubaddressMax sms.subAddress.digits ∧
      FitsCounted 32 rilCdmaSmsBearerDataMax sms.bearerData := by
  obtain ⟨out, hout, h⟩ := constructCdmaSms_constructed rcsm sms
  have haddress := h.address.keeps_unsigned_iff h.addressCount (by decide)
  have hsubAddress := h.subAddress.keeps_unsigned_iff h.subAddressCount (by decide)
  have hdata := h.bearerData.keeps_signed_iff h.bearerDataLen (by decide)
  constructor
  · rintro ⟨out', msg, hout', hmsg, hcount, hsubCount, hdataCount, hdigits, hsubDigits, hbearer⟩
    cases hout.symm.trans hout'
    obtain ⟨hread, hsubRead, hdataRead⟩ :=
      cdmaNewSmsInd_eq_some.mp ⟨msg, hmsg, hdigits, hsubDigits, hbearer⟩
    exact ⟨haddress.mp ⟨hcount, hread⟩, hsubAddress.mp ⟨hsubCount, hsubRead⟩,
      hdata.mp ⟨hdataCount, hdataRead⟩⟩
  · rintro ⟨hfits, hsubFits, hdataFits⟩
    obtain ⟨hcount, hread⟩ := haddress.mpr hfits
    obtain ⟨hsubCount, hsubRead⟩ := hsubAddress.mpr hsubFits
    obtain ⟨hdataCount, hdataRead⟩ := hdata.mpr hdataFits
    obtain ⟨msg, hmsg, hdigits, hsubDigits, hbearer⟩ :=
      cdmaNewSmsInd_eq_some.mpr ⟨hread, hsubRead, hdataRead⟩
    exact ⟨out, msg, hout, hmsg, hcount, hsubCount, hdataCount, hdigits, hsubDigits, hbearer⟩

/-- A message to an address of `n` digits. -/
def messageTo (n : Nat) : CdmaSmsMessage where
  teleserviceId := 4098
  isServicePresent := false
  serviceCategory := 0
  address := ⟨0, 0, 0, 0, List.replicate n 1⟩
  subAddress := ⟨0, false, []⟩
  bearerData := []

/-- The structure that `sendCdmaSms` starts with. -/
def RilCdmaSmsMessage.zero : RilCdmaSmsMessage :=
  ⟨0, 0, 0, ⟨0, 0, 0, 0, 0, .replicate _ 0⟩, ⟨0, 0, 0, .replicate _ 0⟩, 0, .replicate _ 0⟩

/-- Of 37 digits, 36 are copied, and 37 are counted. -/
theorem digit_overcounted :
    ¬∀ (rcsm : RilCdmaSmsMessage) (sms : CdmaSmsMessage), KeepsMessage rcsm sms := by
  intro h
  obtain ⟨out, _, hout, _, ⟨k, hcount, hk, _⟩, _⟩ := h .zero (messageTo 37)
  obtain ⟨out', hout', hconstructed⟩ := constructCdmaSms_constructed .zero (messageTo 37)
  cases hout.symm.trans hout'
  rw [hconstructed.addressCount] at hcount
  have h37 : (37 : Int) = k := hcount
  have h36 : k ≤ 36 := hk
  omega

end Ril
end Huashan
