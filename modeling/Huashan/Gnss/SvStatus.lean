import Mathlib

/-!
# Huashan.Gnss.SvStatus

`gpsSvStatusCb`, which turns the `GpsSvStatus` of the legacy HAL into a `GnssSvStatus`. A `prn`
becomes a constellation and a number in it, and the number picks a bit of the masks.

Distinct satellites stay distinct. `separate_iff`: no bit of a mask reaches the flags of two of them
exactly when no GPS satellite is reported together with the GLONASS satellite of the same number.
-/

namespace Huashan
namespace Gnss

/-! ## The two forms of a status -/

/-- `φ` are the floating point numbers, which are copied only. -/
structure GpsSvInfo (φ : Type*) where
  prn : Int32
  snr : φ
  elevation : φ
  azimuth : φ

/-- The `HaxxSvStatus` of the HAL. -/
structure GpsSvStatus (φ : Type*) where
  numSvs : Int32
  /-- What is at each index behind the start of `sv_list`. -/
  svList : Nat → GpsSvInfo φ
  ephemerisMask : BitVec 32
  almanacMask : BitVec 32
  usedInFixMask : BitVec 32
  /-- The next integer behind `used_in_fix_mask`. -/
  gloUsedInFixMask : BitVec 32

inductive GnssConstellationType where
  | unknown
  | gps
  | sbas
  | glonass
  | qzss
  | beidou
  deriving DecidableEq, Repr

structure GnssSvInfo (φ : Type*) where
  svid : Int16
  constellation : GnssConstellationType
  cN0Dbhz : φ
  elevationDegrees : φ
  azimuthDegrees : φ
  svFlag : UInt8

structure GnssSvStatus (φ : Type*) where
  numSvs : UInt32
  /-- The entries that are set. -/
  gnssSvList : List (GnssSvInfo φ)

def svsCount : UInt32 := 64

/-! `SvidValues`. -/

def glonassSvidOffset : Int := 64
def glonassSvidCount : Int := 24
def beidouSvidOffset : Int := 200
def beidouSvidCount : Int := 35
def sbasSvidMin : Int := 33
def sbasSvidMax : Int := 64
def sbasSvidAdd : Int := 87
def qzssSvidMin : Int := 193
def qzssSvidMax : Int := 200

/-! `GnssSvFlags`. -/

def flagNone : UInt8 := 0
def hasEphemerisData : UInt8 := 1
def hasAlmanacData : UInt8 := 2
def usedInFix : UInt8 := 4

/-! ## `gpsSvStatusCb` -/

/-- The chain over the ranges of the constellations. -/
def constellationOf (prn : Int32) : GnssConstellationType × Int16 :=
  let svid : Int16 := prn.toInt16
  if 1 ≤ svid.toInt ∧ svid.toInt ≤ 32 then (.gps, svid)
  else if glonassSvidOffset < svid.toInt ∧ svid.toInt ≤ glonassSvidOffset + glonassSvidCount then
    (.glonass, .ofInt (svid.toInt - glonassSvidOffset))
  else if beidouSvidOffset < svid.toInt ∧ svid.toInt ≤ beidouSvidOffset + beidouSvidCount then
    (.beidou, .ofInt (svid.toInt - beidouSvidOffset))
  else if sbasSvidMin ≤ svid.toInt ∧ svid.toInt ≤ sbasSvidMax then
    (.sbas, .ofInt (svid.toInt + sbasSvidAdd))
  else if qzssSvidMin ≤ svid.toInt ∧ svid.toInt ≤ qzssSvidMax then (.qzss, svid)
  else (.unknown, svid)

namespace GpsSvStatus

variable {φ : Type*}

def svFlag (s : GpsSvStatus φ) (constellation : GnssConstellationType) (svid : Int16) : UInt8 :=
  if constellation = .gps ∨ constellation = .glonass then
    let svidMask : BitVec 32 := 1#32 <<< (svid.toInt - 1).toNat
    let flag := flagNone
    let flag := if s.ephemerisMask &&& svidMask ≠ 0 then flag ||| hasEphemerisData else flag
    let flag := if s.almanacMask &&& svidMask ≠ 0 then flag ||| hasAlmanacData else flag
    if (constellation = .gps ∧ s.usedInFixMask &&& svidMask ≠ 0) ∨
        (constellation = .glonass ∧ s.gloUsedInFixMask &&& svidMask ≠ 0) then flag ||| usedInFix
    else flag
  else flagNone

/-- One turn of the loop. -/
def svInfo (s : GpsSvStatus φ) (i : Nat) : GnssSvInfo φ :=
  let (constellation, svid) := constellationOf (s.svList i).prn
  { svid := svid
    constellation := constellation
    cN0Dbhz := (s.svList i).snr
    elevationDegrees := (s.svList i).elevation
    azimuthDegrees := (s.svList i).azimuth
    svFlag := s.svFlag constellation svid }

def toGnss (s : GpsSvStatus φ) : GnssSvStatus φ :=
  let numSvs := if s.numSvs.toUInt32 > svsCount then svsCount else s.numSvs.toUInt32
  ⟨numSvs, (List.range numSvs.toNat).map s.svInfo⟩

end GpsSvStatus

/-- What the client is called with, if it is called. -/
def gpsSvStatusCb {φ : Type*} (sGnssCbIface : Bool) (svInfo : Option (GpsSvStatus φ)) :
    Option (GnssSvStatus φ) :=
  if !sGnssCbIface then none else svInfo.map GpsSvStatus.toGnss

/-! ## Constellations -/

/-- Where a number of a constellation comes from. -/
def NumberOf (prn : Int) : GnssConstellationType → Int → Prop
  | .gps, svid => 1 ≤ prn ∧ prn ≤ 32 ∧ svid = prn
  | .glonass, svid => 65 ≤ prn ∧ prn ≤ 88 ∧ svid = prn - 64
  | .beidou, svid => 201 ≤ prn ∧ prn ≤ 235 ∧ svid = prn - 200
  | .sbas, svid => 33 ≤ prn ∧ prn ≤ 64 ∧ svid = prn + 87
  | .qzss, svid => 193 ≤ prn ∧ prn ≤ 200 ∧ svid = prn
  | .unknown, svid => (prn < 1 ∨ 88 < prn ∧ prn < 193 ∨ 235 < prn) ∧ svid = prn

theorem NumberOf.inj {p q svid : Int} {c : GnssConstellationType} (hp : NumberOf p c svid)
    (hq : NumberOf q c svid) : p = q := by
  cases c <;> simp only [NumberOf] at hp hq <;> omega

theorem NumberOf.gps {p svid : Int} {c : GnssConstellationType} (h : NumberOf p c svid)
    (hlow : 1 ≤ p) (hhigh : p ≤ 32) : c = .gps ∧ svid = p := by
  cases c <;> simp only [NumberOf, reduceCtorEq, true_and, false_and] at h ⊢ <;> omega

theorem NumberOf.glonass {p svid : Int} {c : GnssConstellationType} (h : NumberOf p c svid)
    (hlow : 65 ≤ p) (hhigh : p ≤ 88) : c = .glonass ∧ svid = p - 64 := by
  cases c <;> simp only [NumberOf, reduceCtorEq, true_and, false_and] at h ⊢ <;> omega

/-- A `prn` that fits in a `svid`. -/
def InRange (prn : Int32) : Prop := 0 ≤ prn.toInt ∧ prn.toInt ≤ 32767

theorem constellationOf_spec {prn : Int32} (h : InRange prn) :
    NumberOf prn.toInt (constellationOf prn).1 (constellationOf prn).2.toInt := by
  obtain ⟨hlow, hhigh⟩ := h
  have hsvid : prn.toInt16.toInt = prn.toInt := by
    rw [Int32.toInt_toInt16]
    exact Int.bmod_eq_of_le (by omega) (by omega)
  have hofInt : ∀ n : Int, -2 ^ 15 ≤ n → n < 2 ^ 15 → (Int16.ofInt n).toInt = n :=
    fun n hn hn' => Int16.toInt_ofInt_of_le hn hn'
  simp only [constellationOf, hsvid, glonassSvidOffset, glonassSvidCount, beidouSvidOffset,
    beidouSvidCount, sbasSvidMin, sbasSvidMax, sbasSvidAdd, qzssSvidMin, qzssSvidMax]
  split
  · next hgps => exact ⟨hgps.1, hgps.2, hsvid⟩
  split
  · exact ⟨by omega, by omega, hofInt _ (by omega) (by omega)⟩
  split
  · exact ⟨by omega, by omega, hofInt _ (by omega) (by omega)⟩
  split
  · exact ⟨by omega, by omega, hofInt _ (by omega) (by omega)⟩
  split
  · exact ⟨by omega, by omega, hsvid⟩
  · exact ⟨by omega, hsvid⟩

theorem constellationOf_inj {p q : Int32} (hp : InRange p) (hq : InRange q)
    (h : constellationOf p = constellationOf q) : p = q := by
  have hspec := constellationOf_spec hp
  rw [h] at hspec
  exact Int32.toInt_inj.mp (hspec.inj (constellationOf_spec hq))

/-! ## Bits of the masks -/

inductive Mask where
  | ephemeris
  | almanac
  | usedInFix
  | gloUsedInFix
  deriving DecidableEq, Repr

/-- Whether a mask says something about the satellites of a constellation. -/
def Mask.isOf : Mask → GnssConstellationType → Bool
  | .ephemeris, c => c = .gps || c = .glonass
  | .almanac, c => c = .gps || c = .glonass
  | .usedInFix, c => c = .gps
  | .gloUsedInFix, c => c = .glonass

theorem Mask.isOf_cases {m : Mask} {c : GnssConstellationType} (h : m.isOf c = true) :
    c = .gps ∨ c = .glonass := by
  cases m <;> simp_all [Mask.isOf]

theorem and_bit_ne_zero (m : BitVec 32) {n : Nat} (hn : n < 32) :
    m &&& 1#32 <<< n ≠ 0 ↔ m.getLsbD n = true := by
  have hne : BitVec.twoPow 32 n ≠ 0#32 := by
    intro h
    have hbit := congrArg (fun bits => bits.getLsbD n) h
    simp [hn] at hbit
  rw [← BitVec.twoPow_eq, BitVec.and_twoPow]
  cases m.getLsbD n with
  | false => simp
  | true => simpa using hne

theorem getLsbD_flip (m : BitVec 32) {n b : Nat} (hb : b < 32) :
    (m ^^^ 1#32 <<< b).getLsbD n = (m.getLsbD n ^^ decide (b = n)) := by
  rw [← BitVec.twoPow_eq, BitVec.getLsbD_xor, BitVec.getLsbD_twoPow]
  simp [hb]

namespace GpsSvStatus

variable {φ : Type*}

def mask (s : GpsSvStatus φ) : Mask → BitVec 32
  | .ephemeris => s.ephemerisMask
  | .almanac => s.almanacMask
  | .usedInFix => s.usedInFixMask
  | .gloUsedInFix => s.gloUsedInFixMask

/-- Another value of one bit. -/
def flip (s : GpsSvStatus φ) (m : Mask) (b : Fin 32) : GpsSvStatus φ :=
  let flipped := s.mask m ^^^ 1#32 <<< b.val
  match m with
  | .ephemeris => { s with ephemerisMask := flipped }
  | .almanac => { s with almanacMask := flipped }
  | .usedInFix => { s with usedInFixMask := flipped }
  | .gloUsedInFix => { s with gloUsedInFixMask := flipped }

theorem mask_flip (s : GpsSvStatus φ) (m m' : Mask) (b : Fin 32) :
    (s.flip m b).mask m' = if m = m' then s.mask m ^^^ 1#32 <<< b.val else s.mask m' := by
  cases m <;> cases m' <;> rfl

@[simp] theorem svList_flip (s : GpsSvStatus φ) (m : Mask) (b : Fin 32) :
    (s.flip m b).svList = s.svList := by
  cases m <;> rfl

@[simp] theorem numSvs_flip (s : GpsSvStatus φ) (m : Mask) (b : Fin 32) :
    (s.flip m b).numSvs = s.numSvs := by
  cases m <;> rfl

/-- What the flags of a satellite take from a mask. -/
def bit (s : GpsSvStatus φ) (c : GnssConstellationType) (n : Nat) (m : Mask) : Bool :=
  m.isOf c && (s.mask m).getLsbD n

/-- The flags for an ephemeris, an almanac and the use in a fix. -/
def flags (ephemeris almanac inFix : Bool) : UInt8 :=
  (if ephemeris then hasEphemerisData else flagNone) |||
    (if almanac then hasAlmanacData else flagNone) ||| if inFix then usedInFix else flagNone

theorem flags_inj : ∀ {e a u e' a' u' : Bool}, flags e a u = flags e' a' u' →
    e = e' ∧ a = a' ∧ u = u' := by
  decide

theorem svFlag_eq (s : GpsSvStatus φ) {c : GnssConstellationType} {svid : Int16} {n : Nat}
    (hsvid : (svid.toInt - 1).toNat = n) (hn : c = .gps ∨ c = .glonass → n < 32) :
    s.svFlag c svid = flags (s.bit c n .ephemeris) (s.bit c n .almanac)
      (s.bit c n .usedInFix || s.bit c n .gloUsedInFix) := by
  by_cases hc : c = .gps ∨ c = .glonass
  · have htest := fun m => and_bit_ne_zero m (hn hc)
    simp only [svFlag, if_pos hc, hsvid, htest]
    obtain rfl | rfl := hc
    · cases he : s.ephemerisMask.getLsbD n <;> cases ha : s.almanacMask.getLsbD n <;>
        cases hu : s.usedInFixMask.getLsbD n <;> simp [bit, Mask.isOf, mask, flags, he, ha, hu] <;>
        rfl
    · cases he : s.ephemerisMask.getLsbD n <;> cases ha : s.almanacMask.getLsbD n <;>
        cases hu : s.gloUsedInFixMask.getLsbD n <;>
        simp [bit, Mask.isOf, mask, flags, he, ha, hu] <;> rfl
  · have hof : ∀ m : Mask, m.isOf c = false := by
      rw [not_or] at hc
      intro m
      cases m <;> simp [Mask.isOf, hc]
    simp only [svFlag, if_neg hc, bit, hof, Bool.false_and]
    rfl

theorem bit_flip (s : GpsSvStatus φ) (c : GnssConstellationType) (n : Nat) (m m' : Mask)
    (b : Fin 32) : (s.flip m b).bit c n m' =
      (s.bit c n m' ^^ (decide (m = m') && m.isOf c && decide (b.val = n))) := by
  rw [bit, bit, mask_flip]
  by_cases hm : m = m'
  · subst hm
    rw [if_pos rfl, getLsbD_flip _ b.isLt]
    cases m.isOf c <;> simp
  · simp [hm]

/-- A bit reaches the flags of the satellites of its number in the constellations of its mask. -/
theorem svFlag_flip_ne_iff (s : GpsSvStatus φ) {c : GnssConstellationType} {svid : Int16} {n : Nat}
    (hsvid : (svid.toInt - 1).toNat = n) (hn : c = .gps ∨ c = .glonass → n < 32) (m : Mask)
    (b : Fin 32) :
    (s.flip m b).svFlag c svid ≠ s.svFlag c svid ↔ m.isOf c = true ∧ b.val = n := by
  rw [svFlag_eq _ hsvid hn, svFlag_eq _ hsvid hn]
  constructor
  · intro hne
    by_contra hmiss
    have hkeep : ∀ m', (s.flip m b).bit c n m' = s.bit c n m' := by
      intro m'
      have hother : (m.isOf c && decide (b.val = n)) = false := by simpa using hmiss
      rw [bit_flip, Bool.and_assoc, hother, Bool.and_false, Bool.xor_false]
    exact hne (by simp only [hkeep])
  · rintro ⟨hof, hb⟩ heq
    have hflip : (s.flip m b).bit c n m = !s.bit c n m := by
      simp [bit_flip, hof, hb]
    have hkeep : ∀ m', m ≠ m' → (s.flip m b).bit c n m' = s.bit c n m' := by
      intro m' hm
      simp [bit_flip, hm]
    obtain ⟨he, ha, hu⟩ := flags_inj heq
    cases m with
    | ephemeris => simp [hflip] at he
    | almanac => simp [hflip] at ha
    | usedInFix =>
      have hc : c = .gps := by simpa [Mask.isOf] using hof
      have hglo : s.bit c n .gloUsedInFix = false := by simp [bit, Mask.isOf, hc]
      rw [hflip, hkeep _ (by decide), hglo] at hu
      simp at hu
    | gloUsedInFix =>
      have hc : c = .glonass := by simpa [Mask.isOf] using hof
      have hgps : s.bit c n .usedInFix = false := by simp [bit, Mask.isOf, hc]
      rw [hflip, hkeep _ (by decide), hgps] at hu
      simp at hu

/-! ## Entries -/

/-- How many satellites are reported. -/
def reported (s : GpsSvStatus φ) : Nat := s.toGnss.numSvs.toNat

theorem getElem?_gnssSvList (s : GpsSvStatus φ) (i : Nat) :
    s.toGnss.gnssSvList[i]? = if i < s.reported then some (s.svInfo i) else none := by
  have hlist : s.toGnss.gnssSvList = (List.range s.reported).map s.svInfo := rfl
  rw [hlist, List.getElem?_map]
  by_cases hi : i < s.reported
  · rw [List.getElem?_range hi, if_pos hi]
    rfl
  · rw [List.getElem?_eq_none (by simpa using hi), if_neg hi]
    rfl

@[simp] theorem reported_flip (s : GpsSvStatus φ) (m : Mask) (b : Fin 32) :
    (s.flip m b).reported = s.reported := by
  simp [reported, toGnss]

/-- The value of a bit is seen in the flags of an entry. -/
def Influences (s : GpsSvStatus φ) (m : Mask) (b : Fin 32) (i : Nat) : Prop :=
  (s.flip m b).toGnss.gnssSvList[i]?.map GnssSvInfo.svFlag ≠
    s.toGnss.gnssSvList[i]?.map GnssSvInfo.svFlag

theorem influences_iff {s : GpsSvStatus φ} {i : Nat} (hi : i < s.reported)
    (hprn : InRange (s.svList i).prn) (m : Mask) (b : Fin 32) :
    s.Influences m b i ↔ m.isOf (constellationOf (s.svList i).prn).1 = true ∧
      b.val = ((constellationOf (s.svList i).prn).2.toInt - 1).toNat := by
  have hspec := constellationOf_spec hprn
  rw [Influences, getElem?_gnssSvList, getElem?_gnssSvList, reported_flip, if_pos hi, if_pos hi]
  simp only [Option.map_some, svInfo, svList_flip, ne_eq, Option.some_inj]
  refine svFlag_flip_ne_iff s rfl ?_ m b
  rintro (hc | hc)
  · rw [hc] at hspec
    simp only [NumberOf] at hspec
    omega
  · rw [hc] at hspec
    simp only [NumberOf] at hspec
    omega

/-! ## Satellites do not mix -/

/-- Entries of different satellites are told apart by their names, and no bit of a mask is seen in
the flags of both. -/
def Separate (s : GpsSvStatus φ) : Prop :=
  ∀ i j a b, s.toGnss.gnssSvList[i]? = some a → s.toGnss.gnssSvList[j]? = some b →
    (s.svList i).prn ≠ (s.svList j).prn →
      (a.constellation, a.svid) ≠ (b.constellation, b.svid) ∧
        ∀ m bit, ¬(s.Influences m bit i ∧ s.Influences m bit j)

/-- Two satellites with a common bit: one of GPS and one of GLONASS with the same number. -/
theorem shared_bit {s : GpsSvStatus φ} {i j : Nat} (hi : i < s.reported) (hj : j < s.reported)
    (hprn : InRange (s.svList i).prn) (hprn' : InRange (s.svList j).prn)
    (hne : (s.svList i).prn ≠ (s.svList j).prn) {m : Mask} {b : Fin 32}
    (hib : s.Influences m b i) (hjb : s.Influences m b j) :
    (1 ≤ (s.svList i).prn.toInt ∧ (s.svList i).prn.toInt ≤ 24 ∧
      (s.svList j).prn.toInt = (s.svList i).prn.toInt + 64) ∨
    (1 ≤ (s.svList j).prn.toInt ∧ (s.svList j).prn.toInt ≤ 24 ∧
      (s.svList i).prn.toInt = (s.svList j).prn.toInt + 64) := by
  have hne' : (s.svList i).prn.toInt ≠ (s.svList j).prn.toInt := mt Int32.toInt_inj.mp hne
  have hspec := constellationOf_spec hprn
  have hspec' := constellationOf_spec hprn'
  obtain ⟨hof, hbit⟩ := (influences_iff hi hprn m b).mp hib
  obtain ⟨hof', hbit'⟩ := (influences_iff hj hprn' m b).mp hjb
  obtain hc | hc := Mask.isOf_cases hof <;> obtain hc' | hc' := Mask.isOf_cases hof' <;>
    rw [hc] at hspec <;> rw [hc'] at hspec' <;> simp only [NumberOf] at hspec hspec' <;> omega

theorem not_separate {s : GpsSvStatus φ} {i j : Nat} (hi : i < s.reported) (hj : j < s.reported)
    (hprn : InRange (s.svList i).prn) (hprn' : InRange (s.svList j).prn)
    (hlow : 1 ≤ (s.svList i).prn.toInt) (hhigh : (s.svList i).prn.toInt ≤ 24)
    (hsame : (s.svList j).prn.toInt = (s.svList i).prn.toInt + 64) : ¬s.Separate := by
  intro hseparate
  have hne : (s.svList i).prn ≠ (s.svList j).prn := by
    intro heq
    rw [heq] at hsame
    omega
  obtain ⟨hgps, hsvid⟩ := (constellationOf_spec hprn).gps hlow (by omega)
  obtain ⟨hglonass, hsvid'⟩ := (constellationOf_spec hprn').glonass (by omega) (by omega)
  -- Both have the same bit of the ephemeris mask.
  let b : Fin 32 := ⟨((s.svList i).prn.toInt - 1).toNat, by omega⟩
  have hib : s.Influences .ephemeris b i := by
    rw [influences_iff hi hprn, hgps, hsvid]
    exact ⟨rfl, rfl⟩
  have hjb : s.Influences .ephemeris b j := by
    rw [influences_iff hj hprn', hglonass, hsvid', hsame, add_sub_cancel_right]
    exact ⟨rfl, rfl⟩
  exact (hseparate i j _ _ ((s.getElem?_gnssSvList i).trans (if_pos hi))
    ((s.getElem?_gnssSvList j).trans (if_pos hj)) hne).2 _ _ ⟨hib, hjb⟩

/-- With numbers that fit in a `svid`, satellites do not mix exactly when none of GPS is reported
together with the one of GLONASS that has the same number. -/
theorem separate_iff {s : GpsSvStatus φ} (h : ∀ i < s.reported, InRange (s.svList i).prn) :
    s.Separate ↔ ¬∃ i < s.reported, ∃ j < s.reported, 1 ≤ (s.svList i).prn.toInt ∧
      (s.svList i).prn.toInt ≤ 24 ∧ (s.svList j).prn.toInt = (s.svList i).prn.toInt + 64 := by
  constructor
  · rintro hseparate ⟨i, hi, j, hj, hlow, hhigh, hsame⟩
    exact not_separate hi hj (h i hi) (h j hj) hlow hhigh hsame hseparate
  · intro hnone i j a b ha hb hne
    rw [getElem?_gnssSvList] at ha hb
    obtain ⟨hi, ha⟩ := Option.ite_none_right_eq_some.mp ha
    obtain ⟨hj, hb⟩ := Option.ite_none_right_eq_some.mp hb
    cases ha
    cases hb
    refine ⟨fun hpair => hne (constellationOf_inj (h i hi) (h j hj) hpair), ?_⟩
    rintro m bit ⟨hib, hjb⟩
    obtain hshared | hshared := shared_bit hi hj (h i hi) (h j hj) hne hib hjb
    · exact hnone ⟨i, hi, j, hj, hshared⟩
    · exact hnone ⟨j, hj, i, hi, hshared⟩

/-- A status with two satellites. -/
def pair (prn prn' : Int32) : GpsSvStatus Unit where
  numSvs := 2
  svList i := ⟨if i = 0 then prn else prn', (), (), ()⟩
  ephemerisMask := 0
  almanacMask := 0
  usedInFixMask := 0
  gloUsedInFixMask := 0

/-- The first satellite of GPS and the second one of GLONASS. -/
theorem separate_one_sixtySix : (pair 1 66).Separate := by
  have hprn : ∀ i, ((pair 1 66).svList i).prn.toInt = if i = 0 then 1 else 66 := by
    intro i
    by_cases hi : i = 0 <;> simp [pair, hi]
  refine (separate_iff fun i _ => ?_).mpr ?_
  · rw [InRange, hprn]
    split <;> omega
  · rintro ⟨i, _, j, _, _, _, hsame⟩
    rw [hprn, hprn] at hsame
    split at hsame <;> split at hsame <;> omega

/-- The first satellite of GPS and the first one of GLONASS have one bit of the ephemeris mask. -/
theorem first_satellites_mixed : ¬∀ s : GpsSvStatus Unit,
    (∀ i < s.reported, InRange (s.svList i).prn) → s.Separate := by
  intro h
  have hrange : ∀ i < (pair 1 65).reported, InRange ((pair 1 65).svList i).prn := by
    intro i _
    by_cases hi : i = 0 <;> simp [pair, hi, InRange]
  exact not_separate (s := pair 1 65) (i := 0) (j := 1) (by decide) (by decide)
    (hrange 0 (by decide)) (hrange 1 (by decide)) (by decide) (by decide) (by decide)
    (h _ hrange)

end GpsSvStatus

end Gnss
end Huashan
