import Huashan.Ril.ResponseInfo

/-!
# Huashan.Ril.Networks

`getAvailableNetworksResponse`, as built with `OLD_MNC_FORMAT`: an array of strings with
`ro.ril.telephony.mqanelements` strings for each network. The size of such a group is an unsigned
product of 32 bits, at the overflow of which the build of libril (`LOCAL_SANITIZE := integer`)
aborts.

`networksRight_iff`: the response is decoded, or rejected, exactly when `NULL` comes with a length,
or `mqanelements` is positive and below `2 ^ 30` and the array is empty, or its length is no
multiple of the size of a group, or the groups have at least four entries, the third of which has a
`+` and the fourth of which names a status.
-/

namespace Huashan
namespace Ril

inductive OperatorStatus where
  | unknown
  | available
  | current
  | forbidden
  deriving DecidableEq, Repr

structure OperatorInfo where
  alphaLong : Bytes
  alphaShort : Bytes
  operatorNumeric : Bytes
  /-- `none` where it was not set. -/
  status : Option OperatorStatus
  deriving DecidableEq, Repr

/-- An element of the vector that was resized. -/
def OperatorInfo.unset : OperatorInfo := ⟨[], [], [], none⟩

/-- `strncmp` finds no difference. -/
def strncmpEq (a b : Bytes) (n : Nat) : Bool := (a ++ [0]).take n == (b ++ [0]).take n

/-- The position of the last `c`. -/
def strrchr (c : UInt8) : Bytes → Option Nat
  | [] => none
  | b :: bs =>
    match strrchr c bs with
    | some i => some (i + 1)
    | none => if b = c then some 0 else none

/-- `"unknown"`. -/
def strUnknown : Bytes := [0x75, 0x6e, 0x6b, 0x6e, 0x6f, 0x77, 0x6e]
/-- `"available"`. -/
def strAvailable : Bytes := [0x61, 0x76, 0x61, 0x69, 0x6c, 0x61, 0x62, 0x6c, 0x65]
/-- `"current"`. -/
def strCurrent : Bytes := [0x63, 0x75, 0x72, 0x72, 0x65, 0x6e, 0x74]
/-- `"forbidden"`. -/
def strForbidden : Bytes := [0x66, 0x6f, 0x72, 0x62, 0x69, 0x64, 0x64, 0x65, 0x6e]

/-- `none` for -1. -/
def convertOperatorStatusToInt (str : Bytes) : Option OperatorStatus :=
  if strncmpEq strUnknown str 9 then some .unknown
  else if strncmpEq strAvailable str 9 then some .available
  else if strncmpEq strCurrent str 9 then some .current
  else if strncmpEq strForbidden str 9 then some .forbidden
  else none

/-- `'+'`. -/
def plus : UInt8 := 0x2b

/-- The body of the loop. -/
def readOperatorInfo (resp : List (Option Bytes)) (i : Int) : Except Fault OperatorInfo := do
  let alphaLong := convertCharPtrToHidlString (← readEntry resp i)
  let alphaShort := convertCharPtrToHidlString (← readEntry resp (i + 1))
  let mccmnc ← dereference (← readEntry resp (i + 2))
  match strrchr plus mccmnc with
  | none => .error .missingPosition
  | some mccmncIdx =>
    let status := convertOperatorStatusToInt (← dereference (← readEntry resp (i + 3)))
    return ⟨alphaLong, alphaShort, mccmnc.take mccmncIdx, status⟩

/-- The loop from `i` on, with the elements of `networks` from `j` on; also whether a status is not
known. -/
def readNetworks (mqanelements : Int) (numStrings : Nat) (resp : List (Option Bytes)) :
    Nat → Int → Except Fault (Bool × List OperatorInfo)
  | 0, i => if i < numStrings then .error .outOfBounds else .ok (false, [])
  | left + 1, i =>
    if i < numStrings then do
      let network ← readOperatorInfo resp i
      let (unknown, networks) ←
        readNetworks mqanelements numStrings resp left (i + mqanelements)
      return (network.status.isNone || unknown, network :: networks)
    else .ok (false, List.replicate (left + 1) .unset)

/-- `mqanelements * sizeof(char *)`, of the `size_t` that the `int` is converted to. -/
def groupSize (mqanelements : Int32) : Except Fault UInt32 :=
  if mqanelements.toUInt32.toNat * 4 < 2 ^ 32 then .ok (mqanelements.toUInt32 * 4)
  else .error .overflow

/-- The response that is sent, if there is an object to send it to. -/
def getAvailableNetworksResponse (mqanelements : Int32) (mRadioResponse : Bool)
    (serial responseType : Int32) (e : RilErrno) (response : StringArray) :
    Except Fault (Option (RadioResponseInfo × List OperatorInfo)) :=
  if mRadioResponse then
    let responseInfo := populateResponseInfo serial responseType e
    if response.entries.isNone ∧ response.responseLen ≠ 0 then
      .ok (some (responseInfo.invalidate e, []))
    else do
      let size ← groupSize mqanelements
      if size = 0 then .error .divisionByZero
      else if response.responseLen % size ≠ 0 then
        return some (responseInfo.invalidate e, [])
      else
        let count := (response.numStrings : Int).tdiv mqanelements.toInt
        let (unknown, networks) ← readNetworks mqanelements.toInt response.numStrings
          (response.entries.getD []) count.toNat 0
        return some (if unknown then responseInfo.invalidate e else responseInfo, networks)
  else .ok none

/-! ## Positions and groups -/

theorem strrchr_eq_none_iff {c : UInt8} {s : Bytes} : strrchr c s = none ↔ c ∉ s := by
  induction s with
  | nil => simp [strrchr]
  | cons b bs ih =>
    rw [strrchr, List.mem_cons, not_or, ← ih]
    split
    · next i hi => simp [hi]
    · next hnone => simp [hnone, eq_comm]

theorem strrchr_eq_some {c : UInt8} {s : Bytes} {i : Nat} (h : strrchr c s = some i) :
    ∃ rest, s = s.take i ++ c :: rest ∧ c ∉ rest := by
  induction s generalizing i with
  | nil => cases h
  | cons b bs ih =>
    rw [strrchr] at h
    split at h
    · next k hk =>
      cases h
      obtain ⟨rest, hsplit, hrest⟩ := ih hk
      refine ⟨rest, ?_, hrest⟩
      rw [List.take_succ_cons, List.cons_append, ← hsplit]
    · next hnone =>
      split at h
      · next hb =>
        cases h
        exact ⟨bs, by rw [hb]; rfl, strrchr_eq_none_iff.mp hnone⟩
      · cases h

/-- The four entries from `base` on are there and describe the network. -/
structure Describes (resp : List (Option Bytes)) (base : Nat) (network : OperatorInfo) : Prop where
  alphaLong : ∃ entry, resp[base]? = some entry ∧
    network.alphaLong = convertCharPtrToHidlString entry
  alphaShort : ∃ entry, resp[base + 1]? = some entry ∧
    network.alphaShort = convertCharPtrToHidlString entry
  operatorNumeric : ∃ str rest, resp[base + 2]? = some (some str) ∧
    cStr str = network.operatorNumeric ++ plus :: rest ∧ plus ∉ rest
  status : ∃ str status, resp[base + 3]? = some (some str) ∧
    convertOperatorStatusToInt (cStr str) = some status ∧ network.status = some status

/-- The third entry from `base` on has a `+`, and the fourth one names a status. -/
structure GoodGroup (resp : List (Option Bytes)) (base : Nat) : Prop where
  operatorNumeric : ∃ str, resp[base + 2]? = some (some str) ∧ plus ∈ cStr str
  status : ∃ str, resp[base + 3]? = some (some str) ∧
    (convertOperatorStatusToInt (cStr str)).isSome

theorem Describes.goodGroup {resp : List (Option Bytes)} {base : Nat} {network : OperatorInfo}
    (h : Describes resp base network) : GoodGroup resp base := by
  obtain ⟨str, rest, hstr, hsplit, _⟩ := h.operatorNumeric
  obtain ⟨str', status, hstr', hstatus, _⟩ := h.status
  refine ⟨⟨str, hstr, ?_⟩, ⟨str', hstr', by rw [hstatus]; rfl⟩⟩
  rw [hsplit]
  exact List.mem_append_right _ List.mem_cons_self

/-- A good group is read without a fault. -/
theorem GoodGroup.readOperatorInfo {resp : List (Option Bytes)} {base : Nat}
    (h : GoodGroup resp base) : ∃ network, readOperatorInfo resp base = .ok network ∧
      Describes resp base network := by
  obtain ⟨str, hstr, hplus⟩ := h.operatorNumeric
  obtain ⟨str', hstr', hstatus⟩ := h.status
  have hlength : base + 2 < resp.length := (List.getElem?_eq_some_iff.mp hstr).1
  have h0 : resp[base]? = some resp[base] := List.getElem?_eq_getElem (by omega)
  have h1 : resp[base + 1]? = some resp[base + 1] := List.getElem?_eq_getElem (by omega)
  obtain ⟨mccmncIdx, hidx⟩ : ∃ i, strrchr plus (cStr str) = some i := by
    refine Option.ne_none_iff_exists'.mp fun hnone => ?_
    exact strrchr_eq_none_iff.mp hnone hplus
  obtain ⟨status, hstatus⟩ := Option.isSome_iff_exists.mp hstatus
  obtain ⟨rest, hsplit, hrest⟩ := strrchr_eq_some hidx
  refine ⟨⟨convertCharPtrToHidlString resp[base], convertCharPtrToHidlString resp[base + 1],
    (cStr str).take mccmncIdx, some status⟩, ?_, ⟨⟨_, h0, rfl⟩, ⟨_, h1, rfl⟩,
      ⟨str, rest, hstr, hsplit, hrest⟩, ⟨str', status, hstr', hstatus, rfl⟩⟩⟩
  have hread0 := readEntry_of_getElem? h0
  have hread1 := readEntry_of_getElem? h1
  have hread2 := readEntry_of_getElem? hstr
  have hread3 := readEntry_of_getElem? hstr'
  push_cast at hread1 hread2 hread3
  unfold Ril.readOperatorInfo
  rw [hread0, hread1, hread2, hread3]
  show (match strrchr plus (cStr str) with
    | none => Except.error Fault.missingPosition
    | some mccmncIdx => _) = _
  rw [hidx]
  show Except.ok (OperatorInfo.mk _ _ _ (convertOperatorStatusToInt (cStr str'))) = _
  rw [hstatus]

/-! ## The loop -/

theorem length_readNetworks {m : Int} {n : Nat} {resp : List (Option Bytes)} {left : Nat} {i : Int}
    {result : Bool × List OperatorInfo} (h : readNetworks m n resp left i = .ok result) :
    result.2.length = left := by
  induction left generalizing i result with
  | zero =>
    rw [readNetworks] at h
    split at h
    · cases h
    · cases h
      rfl
  | succ left ih =>
    rw [readNetworks] at h
    split at h
    · cases hnetwork : Ril.readOperatorInfo resp i with
      | error fault =>
        rw [hnetwork] at h
        cases h
      | ok network =>
        cases hrest : readNetworks m n resp left (i + m) with
        | error fault =>
          rw [hnetwork, hrest] at h
          cases h
        | ok rest =>
          rw [hnetwork, hrest] at h
          cases h
          exact congrArg Nat.succ (ih hrest)
    · cases h
      exact List.length_replicate

/-- Good groups are all read, and end where the array ends. -/
theorem readNetworks_good {m n : Nat} {resp : List (Option Bytes)} {left base : Nat} (hm : 0 < m)
    (hend : base + left * m = n) (hgood : ∀ j < left, GoodGroup resp (base + j * m)) :
    ∃ networks, readNetworks m n resp left base = .ok (false, networks) ∧
      networks.length = left ∧
      ∀ j (hj : j < networks.length), Describes resp (base + j * m) networks[j] := by
  induction left generalizing base with
  | zero =>
    refine ⟨[], ?_, rfl, fun j hj => absurd hj (Nat.not_lt_zero j)⟩
    rw [readNetworks, if_neg (by omega)]
  | succ left ih =>
    have hrest : ∀ j < left, GoodGroup resp (base + m + j * m) := by
      intro j hj
      have hnext := hgood (j + 1) (Nat.succ_lt_succ hj)
      rwa [Nat.succ_mul, Nat.add_comm (j * m), ← Nat.add_assoc] at hnext
    have hend' : base + m + left * m = n := by
      rw [← hend, Nat.succ_mul]
      omega
    obtain ⟨networks, hread, hlength, hdescribes⟩ := ih hend' hrest
    have hfirst := hgood 0 (Nat.succ_pos left)
    rw [Nat.zero_mul, Nat.add_zero] at hfirst
    obtain ⟨network, hnetwork, hdescribed⟩ := hfirst.readOperatorInfo
    obtain ⟨_, status, _, _, hstatus⟩ := hdescribed.status
    refine ⟨network :: networks, ?_, congrArg Nat.succ hlength, ?_⟩
    · rw [Nat.cast_add] at hread
      rw [readNetworks, if_pos (by omega), hnetwork]
      show (readNetworks m n resp left (base + m) >>= fun rest => _) = _
      rw [hread]
      show Except.ok (network.status.isNone || false, _) = _
      rw [hstatus]
      rfl
    · intro j hj
      cases j with
      | zero =>
        rw [Nat.zero_mul, Nat.add_zero]
        exact hdescribed
      | succ j =>
        have hnext := hdescribes j (Nat.lt_of_succ_lt_succ hj)
        rw [Nat.succ_mul, Nat.add_comm (j * m), ← Nat.add_assoc]
        exact hnext

/-! ## Which responses are decoded -/

/-- No fault; and the response is rejected without networks, or each group of `mqanelements`
entries is described by its network. -/
def NetworksRight (mqanelements : Int32) (response : StringArray) : Prop :=
  ∀ serial responseType e, ∃ info networks,
    getAvailableNetworksResponse mqanelements true serial responseType e response =
        .ok (some (info, networks)) ∧
      ((info = (populateResponseInfo serial responseType e).invalidate e ∧ networks = []) ∨
        (info = populateResponseInfo serial responseType e ∧
          (networks.length : Int) * mqanelements.toInt = response.numStrings ∧
          ∀ j (hj : j < networks.length), Describes (response.entries.getD [])
            (j * mqanelements.toInt.toNat) networks[j]))

/-- All entries are in good groups. -/
structure IsGrouped (mqanelements : Int32) (response : StringArray) : Prop where
  four_le : 4 ≤ mqanelements.toInt
  dvd : mqanelements.toInt.toNat ∣ response.numStrings
  goodGroup : ∀ j < response.numStrings / mqanelements.toInt.toNat,
    GoodGroup (response.entries.getD []) (j * mqanelements.toInt.toNat)

theorem groupSize_ok_iff {m : Int32} {size : UInt32} : groupSize m = .ok size ↔
    0 ≤ m.toInt ∧ m.toInt < 2 ^ 30 ∧ size.toNat = 4 * m.toInt.toNat := by
  have hbound := m.toUInt32.toNat_lt
  have hword : m.toInt = if 2 * m.toUInt32.toNat < 2 ^ 32 then (m.toUInt32.toNat : Int)
      else (m.toUInt32.toNat : Int) - 2 ^ 32 := BitVec.toInt_eq_toNat_cond m.toBitVec
  unfold groupSize
  split
  · next hfits =>
    have hsize : (m.toUInt32 * 4).toNat = m.toUInt32.toNat * 4 := by
      rw [UInt32.toNat_mul]
      exact Nat.mod_eq_of_lt hfits
    rw [Except.ok.injEq, ← UInt32.toNat_inj, hsize]
    omega
  · next hoverflow =>
    constructor
    · intro h
      cases h
    · rintro ⟨hle, hlt, _⟩
      refine (hoverflow ?_).elim
      omega

/-- The size of a group that is neither zero nor too large. -/
theorem groupSize_of_pos {m : Int32} (hpos : 0 < m.toInt) (hlt : m.toInt < 2 ^ 30) :
    ∃ size, groupSize m = .ok size ∧ size ≠ 0 ∧ size.toNat = 4 * m.toInt.toNat := by
  have htoNat : (UInt32.ofNat (4 * m.toInt.toNat)).toNat = 4 * m.toInt.toNat :=
    UInt32.toNat_ofNat_of_lt (show _ < 2 ^ 32 by omega)
  refine ⟨_, groupSize_ok_iff.mpr ⟨hpos.le, hlt, htoNat⟩, fun hzero => ?_, htoNat⟩
  rw [hzero, UInt32.toNat_zero] at htoNat
  omega

section Decoding

variable {m : Int32} {response : StringArray}

/-- What is left when the response is not rejected. -/
theorem getAvailableNetworksResponse_eq (hnull : ¬(response.entries.isNone ∧
    response.responseLen ≠ 0)) (hpos : 0 < m.toInt) (hlt : m.toInt < 2 ^ 30)
    (hdvd : 4 * m.toInt.toNat ∣ response.responseLen.toNat) (serial responseType : Int32)
    (e : RilErrno) :
    getAvailableNetworksResponse m true serial responseType e response =
      (readNetworks m.toInt response.numStrings (response.entries.getD [])
        ((response.numStrings : Int).tdiv m.toInt).toNat 0).map fun read =>
          some (if read.1 then (populateResponseInfo serial responseType e).invalidate e
            else populateResponseInfo serial responseType e, read.2) := by
  obtain ⟨size, hsize, hne, htoNat⟩ := groupSize_of_pos hpos hlt
  have hmod : response.responseLen % size = 0 := by
    rw [← UInt32.toNat_inj, UInt32.toNat_mod, htoNat]
    exact Nat.mod_eq_zero_of_dvd hdvd
  unfold getAvailableNetworksResponse
  rw [if_pos rfl, if_neg hnull, hsize]
  show (if size = 0 then _ else _) = _
  rw [if_neg hne, if_neg (not_not.mpr hmod)]
  dsimp only
  cases readNetworks m.toInt response.numStrings (response.entries.getD [])
    ((response.numStrings : Int).tdiv m.toInt).toNat 0 <;> rfl

theorem networksRight_of_rejected
    (h : ∀ serial responseType e, getAvailableNetworksResponse m true serial responseType e
      response = .ok (some ((populateResponseInfo serial responseType e).invalidate e, []))) :
    NetworksRight m response :=
  fun serial responseType e => ⟨_, _, h serial responseType e, .inl ⟨rfl, rfl⟩⟩

/-- A length that is no multiple of the size of a group is rejected. -/
theorem networksRight_of_not_dvd (hpos : 0 < m.toInt) (hlt : m.toInt < 2 ^ 30)
    (hdvd : ¬4 * m.toInt.toNat ∣ response.responseLen.toNat) : NetworksRight m response := by
  obtain ⟨size, hsize, hne, htoNat⟩ := groupSize_of_pos hpos hlt
  have hmod : response.responseLen % size ≠ 0 := by
    rw [Ne, ← UInt32.toNat_inj, UInt32.toNat_mod, htoNat]
    exact fun hzero => hdvd (Nat.dvd_of_mod_eq_zero hzero)
  refine networksRight_of_rejected fun serial responseType e => ?_
  unfold getAvailableNetworksResponse
  rw [if_pos rfl, hsize]
  split
  · rfl
  · show (if size = 0 then _ else _) = _
    rw [if_neg hne, if_pos hmod]
    rfl

/-- What is neither rejected for its `NULL` nor a fault has a size of a group. -/
theorem NetworksRight.fits (h : NetworksRight m response)
    (hnull : ¬(response.entries.isNone ∧ response.responseLen ≠ 0)) :
    0 < m.toInt ∧ m.toInt < 2 ^ 30 := by
  obtain ⟨info, networks, hdone, _⟩ := h 0 0 rilESuccess
  unfold getAvailableNetworksResponse at hdone
  rw [if_pos rfl, if_neg hnull] at hdone
  cases hsize : groupSize m with
  | error fault =>
    rw [hsize] at hdone
    cases hdone
  | ok size =>
    obtain ⟨hle, hlt, htoNat⟩ := groupSize_ok_iff.mp hsize
    refine ⟨lt_of_le_of_ne hle fun hzero => ?_, hlt⟩
    have hdiv : size = 0 := UInt32.toNat_inj.mp (by rw [htoNat, ← hzero]; rfl)
    rw [hsize, hdiv] at hdone
    cases hdone

theorem networksRight_of_empty (hpos : 0 < m.toInt) (hlt : m.toInt < 2 ^ 30)
    (hempty : response.responseLen = 0) : NetworksRight m response := by
  intro serial responseType e
  have hnum : response.numStrings = 0 := by rw [StringArray.numStrings, hempty]; rfl
  have hdvd : 4 * m.toInt.toNat ∣ response.responseLen.toNat := by
    rw [hempty]
    exact Nat.dvd_zero _
  refine ⟨populateResponseInfo serial responseType e, [], ?_, .inr ⟨rfl, ?_, ?_⟩⟩
  · rw [getAvailableNetworksResponse_eq (fun h => h.2 hempty) hpos hlt hdvd, hnum]
    simp only [Nat.cast_zero, Int.zero_tdiv, Int.toNat_zero, readNetworks]
    rfl
  · rw [hnum]
    exact Int.zero_mul _
  · intro j hj
    cases hj

theorem IsGrouped.networksRight (h : IsGrouped m response)
    (hnull : ¬(response.entries.isNone ∧ response.responseLen ≠ 0)) (hlt : m.toInt < 2 ^ 30)
    (hdvd : 4 * m.toInt.toNat ∣ response.responseLen.toNat) : NetworksRight m response := by
  intro serial responseType e
  obtain ⟨count, hcount⟩ := h.dvd
  obtain ⟨k, hk⟩ : ∃ k : Nat, m.toInt = k := ⟨m.toInt.toNat, by have := h.four_le; omega⟩
  have hgood := h.goodGroup
  have hfour := h.four_le
  rw [hk, Int.toNat_natCast] at hcount hgood
  rw [hk] at hfour
  have hpos : 0 < k := by omega
  have hdiv : (response.numStrings : Int).tdiv k = count := by
    rw [hcount, ← Int.ofNat_tdiv, Nat.mul_div_cancel_left _ hpos]
  rw [hcount, Nat.mul_div_cancel_left _ hpos] at hgood
  have hend : 0 + count * k = response.numStrings := by rw [hcount, Nat.zero_add, Nat.mul_comm]
  obtain ⟨networks, hread, hlength, hdescribes⟩ := readNetworks_good hpos hend
    (by simpa only [Nat.zero_add] using hgood)
  refine ⟨populateResponseInfo serial responseType e, networks, ?_, .inr ⟨rfl, ?_, ?_⟩⟩
  · rw [getAvailableNetworksResponse_eq hnull (by omega) hlt hdvd, hk, hdiv, Int.toNat_natCast]
    rw [Nat.cast_zero] at hread
    rw [hread]
    rfl
  · rw [hlength, hk, hcount, Nat.mul_comm]
    rfl
  · simpa only [Nat.zero_add, hk, Int.toNat_natCast] using hdescribes

/-- A decoded array that is not empty is all in good groups. -/
theorem NetworksRight.isGrouped (h : NetworksRight m response)
    (hnull : ¬(response.entries.isNone ∧ response.responseLen ≠ 0))
    (hdvd : 4 * m.toInt.toNat ∣ response.responseLen.toNat) (hsome : response.responseLen ≠ 0) :
    IsGrouped m response := by
  obtain ⟨l, hl⟩ : ∃ l, response.entries = some l := by
    refine Option.ne_none_iff_exists'.mp fun hnone => hnull ⟨?_, hsome⟩
    rw [hnone]
    rfl
  have hnum := response.numStrings_eq hl
  have hpos : 0 < l.length := by
    have hlen := response.length_eq l hl
    have hne : response.responseLen.toNat ≠ 0 := fun hzero => hsome (UInt32.toNat_inj.mp hzero)
    omega
  obtain ⟨hm, hlt⟩ := h.fits hnull
  obtain ⟨info, networks, hdone, hright⟩ := h 0 0 rilESuccess
  rw [getAvailableNetworksResponse_eq hnull hm hlt hdvd] at hdone
  cases hread : readNetworks m.toInt response.numStrings (response.entries.getD [])
      ((response.numStrings : Int).tdiv m.toInt).toNat 0 with
  | error fault =>
    rw [hread] at hdone
    cases hdone
  | ok read =>
    rw [hread] at hdone
    have hnetworks : read.2 = networks := congrArg Prod.snd (Option.some.inj (Except.ok.inj hdone))
    obtain ⟨_, hempty⟩ | ⟨_, htotal, hdescribes⟩ := hright
    · -- the loop would leave a vector without elements at once
      have hleft := length_readNetworks hread
      rw [hnetworks, hempty] at hleft
      rw [← hleft, List.length_nil, readNetworks, if_pos (by omega)] at hread
      cases hread
    · obtain ⟨k, hk⟩ : ∃ k : Nat, m.toInt = k := ⟨m.toInt.toNat, by omega⟩
      rw [hk] at htotal hm
      rw [hk, Int.toNat_natCast, hl, Option.getD_some] at hdescribes
      have hcount : response.numStrings = networks.length * k := by exact_mod_cast htotal.symm
      have hdiv : response.numStrings / k = networks.length := by
        rw [hcount, Nat.mul_div_cancel _ (by omega)]
      refine ⟨?_, ?_, ?_⟩
      · -- the fourth entry of the last group is in the array
        obtain ⟨last, hlast⟩ : ∃ last, networks.length = last + 1 := by
          refine Nat.exists_eq_succ_of_ne_zero fun hzero => ?_
          rw [hcount, hzero, Nat.zero_mul] at hnum
          omega
        obtain ⟨str, _, hstr, _⟩ := (hdescribes last (by omega)).status
        have hbound := (List.getElem?_eq_some_iff.mp hstr).1
        rw [hlast, Nat.succ_mul] at hcount
        omega
      · rw [hk, Int.toNat_natCast]
        exact ⟨networks.length, by rw [hcount, Nat.mul_comm]⟩
      · rw [hk, Int.toNat_natCast, hdiv, hl, Option.getD_some]
        exact fun j hj => (hdescribes j hj).goodGroup

end Decoding

/-- Every response is decoded without a fault, and completely, exactly when `NULL` comes with a
length, or the size of a group is not zero and does not overflow and the array is empty, has a
length that is not a multiple of it, or has good groups only. -/
theorem networksRight_iff (m : Int32) (response : StringArray) : NetworksRight m response ↔
    (response.entries = none ∧ response.responseLen ≠ 0) ∨
      (0 < m.toInt ∧ m.toInt < 2 ^ 30 ∧
        (¬4 * m.toInt.toNat ∣ response.responseLen.toNat ∨ response.responseLen = 0 ∨
          IsGrouped m response)) := by
  by_cases hnull : response.entries.isNone ∧ response.responseLen ≠ 0
  · refine ⟨fun _ => .inl ⟨Option.isNone_iff_eq_none.mp hnull.1, hnull.2⟩, fun _ => ?_⟩
    refine networksRight_of_rejected fun serial responseType e => ?_
    unfold getAvailableNetworksResponse
    rw [if_pos rfl, if_pos hnull]
  constructor
  · intro h
    obtain ⟨hpos, hlt⟩ := h.fits hnull
    refine .inr ⟨hpos, hlt, ?_⟩
    by_cases hdvd : 4 * m.toInt.toNat ∣ response.responseLen.toNat
    · by_cases hempty : response.responseLen = 0
      · exact .inr (.inl hempty)
      · exact .inr (.inr (h.isGrouped hnull hdvd hempty))
    · exact .inl hdvd
  · rintro (h | ⟨hpos, hlt, h⟩)
    · exact absurd ⟨Option.isNone_iff_eq_none.mpr h.1, h.2⟩ hnull
    by_cases hdvd : 4 * m.toInt.toNat ∣ response.responseLen.toNat
    · obtain h | h | h := h
      · exact absurd hdvd h
      · exact networksRight_of_empty hpos hlt h
      · exact h.networksRight hnull hlt hdvd
    · exact networksRight_of_not_dvd hpos hlt hdvd

/-- `"26201"`. -/
def codeWithoutPlus : Bytes := [0x32, 0x36, 0x32, 0x30, 0x31]

/-- One network, with four entries, the third of which has no `+`. -/
def withoutPlus : StringArray where
  entries := some [none, none, some codeWithoutPlus, some strAvailable]
  responseLen := 16
  length_eq l hl := by
    cases hl
    rfl

/-- A position is subtracted from that was not found. -/
theorem position_missing : ¬∀ (m : Int32) (response : StringArray), NetworksRight m response := by
  intro h
  obtain ⟨info, networks, hdone, _⟩ := h 4 withoutPlus 0 0 rilESuccess
  have hfault : getAvailableNetworksResponse 4 true 0 0 rilESuccess withoutPlus =
      .error .missingPosition := by rfl
  rw [hfault] at hdone
  cases hdone

end Ril
end Huashan
