import Huashan.Ril.Dispatch

/-!
# Huashan.Ril.NewSms

The indications of a new SMS and of a status report: the vendor gives the PDU as hexadecimal
digits, and `convertHexStringToBytes` makes it the bytes that the client is sent. The response is
the list of its `responseLen` bytes.

`convertHexStringToBytes_iff`: exactly the strings of pairs of digits are converted, and the
digits of the buffer are the string again, in lower case.
-/

namespace Huashan
namespace Ril

def invalidHexChar : UInt8 := 16

def hexCharToInt (c : UInt8) : UInt8 :=
  if 0x30 ≤ c ∧ c ≤ 0x39 then c - 0x30
  else if 0x41 ≤ c ∧ c ≤ 0x46 then c - 0x41 + 10
  else if 0x61 ≤ c ∧ c ≤ 0x66 then c - 0x61 + 10
  else invalidHexChar

/-- The loop from the index `i` on, with what is left of the string. -/
def convertHexFrom (i : Nat) (bytes : Bytes) : Bytes → Option Bytes
  | c₁ :: c₂ :: hexString =>
    let hexChar₁ := hexCharToInt c₁
    let hexChar₂ := hexCharToInt c₂
    if hexChar₁ = invalidHexChar ∨ hexChar₂ = invalidHexChar then none
    else convertHexFrom (i + 2) (bytes.set (i / 2) (hexChar₁ <<< 4 ||| hexChar₂)) hexString
  | _ => some bytes

/-- `allocated` says whether `calloc` returns a buffer; `none` is `NULL`. -/
def convertHexStringToBytes (allocated : Bool) (response : Bytes) : Option Bytes :=
  if response.length % 2 ≠ 0 then none
  else if !allocated then none
  else convertHexFrom 0 (List.replicate (response.length / 2) 0) response

inductive RadioIndicationType where
  | unsolicited
  | unsolicitedAckExp
  deriving DecidableEq, Repr

def responseUnsolicited : Int32 := 1

def convertIntToRadioIndicationType (indicationType : Int32) : RadioIndicationType :=
  if indicationType = responseUnsolicited then .unsolicited else .unsolicitedAckExp

/-- The calls of `mRadioIndication`, with their PDU. -/
inductive SmsIndication where
  | newSms (type : RadioIndicationType) (pdu : Bytes)
  | newSmsStatusReport (type : RadioIndicationType) (pdu : Bytes)
  deriving DecidableEq, Repr

/-- What both functions deliver; `registered` says that there are a service and an
`mRadioIndication`. -/
def deliverPdu (call : RadioIndicationType → Bytes → SmsIndication) (registered allocated : Bool)
    (indicationType : Int32) (response : Option Bytes) : Option SmsIndication :=
  match registered, response with
  | true, some response =>
    if response.length = 0 then none
    else match convertHexStringToBytes allocated response with
      | none => none
      | some bytes => some (call (convertIntToRadioIndicationType indicationType)
          (bytes.take (response.length / 2)))
  | _, _ => none

def newSmsInd (registered allocated : Bool) (indicationType : Int32) (response : Option Bytes) :
    Option SmsIndication :=
  deliverPdu .newSms registered allocated indicationType response

def newSmsStatusReportInd (registered allocated : Bool) (indicationType : Int32)
    (response : Option Bytes) : Option SmsIndication :=
  deliverPdu .newSmsStatusReport registered allocated indicationType response

/-! ## Digits -/

def isxdigit (c : UInt8) : Prop :=
  (0x30 ≤ c ∧ c ≤ 0x39) ∨ (0x41 ≤ c ∧ c ≤ 0x46) ∨ (0x61 ≤ c ∧ c ≤ 0x66)

instance (c : UInt8) : Decidable (isxdigit c) := inferInstanceAs (Decidable (_ ∨ _ ∨ _))

def tolower (c : UInt8) : UInt8 := if 0x41 ≤ c ∧ c ≤ 0x5a then c + 0x20 else c

/-- The lower-case digit of a number below 16. -/
def hexDigit (n : Nat) : UInt8 := if n < 10 then UInt8.ofNat (0x30 + n) else UInt8.ofNat (0x57 + n)

/-- A buffer in hexadecimal. -/
def encodeHex (bytes : Bytes) : Bytes :=
  bytes.flatMap fun b => [hexDigit (b.toNat / 16), hexDigit (b.toNat % 16)]

theorem hexDigit_toNat {n : Nat} (hn : n < 16) :
    (hexDigit n).toNat = if n < 10 then 0x30 + n else 0x57 + n := by
  unfold hexDigit
  split <;> rw [UInt8.toNat_ofNat'] <;> omega

theorem between_iff (a c b : UInt8) : a ≤ c ∧ c ≤ b ↔ a.toNat ≤ c.toNat ∧ c.toNat ≤ b.toNat := by
  rw [UInt8.le_iff_toNat_le, UInt8.le_iff_toNat_le]

theorem tolower_toNat (c : UInt8) :
    (tolower c).toNat = if 0x41 ≤ c.toNat ∧ c.toNat ≤ 0x5a then c.toNat + 0x20 else c.toNat := by
  simp only [tolower, between_iff, UInt8.reduceToNat]
  split
  · simp only [UInt8.toNat_add, UInt8.reduceToNat]
    omega
  · rfl

theorem isxdigit_iff (c : UInt8) : isxdigit c ↔ (0x30 ≤ c.toNat ∧ c.toNat ≤ 0x39) ∨
    (0x41 ≤ c.toNat ∧ c.toNat ≤ 0x46) ∨ (0x61 ≤ c.toNat ∧ c.toNat ≤ 0x66) := by
  simp only [isxdigit, between_iff, UInt8.reduceToNat]

theorem hexCharToInt_toNat (c : UInt8) : (hexCharToInt c).toNat =
    if 0x30 ≤ c.toNat ∧ c.toNat ≤ 0x39 then c.toNat - 0x30
    else if 0x41 ≤ c.toNat ∧ c.toNat ≤ 0x46 then c.toNat - 0x37
    else if 0x61 ≤ c.toNat ∧ c.toNat ≤ 0x66 then c.toNat - 0x57
    else 16 := by
  have hlt := c.toNat_lt
  simp only [hexCharToInt, between_iff, UInt8.reduceToNat]
  split
  · simp only [UInt8.toNat_sub, UInt8.reduceToNat]
    omega
  · split
    · simp only [UInt8.toNat_add, UInt8.toNat_sub, UInt8.reduceToNat]
      omega
    · split
      · simp only [UInt8.toNat_add, UInt8.toNat_sub, UInt8.reduceToNat]
        omega
      · rfl

/-- A digit has a value below 16, which is the value of its lower-case digit; any other character
has the one value that no digit has. -/
theorem hexCharToInt_spec (c : UInt8) :
    (isxdigit c ∧ (hexCharToInt c).toNat < 16 ∧ hexDigit (hexCharToInt c).toNat = tolower c) ∨
      (¬ isxdigit c ∧ hexCharToInt c = invalidHexChar) := by
  have hvalue := hexCharToInt_toNat c
  by_cases hc : isxdigit c
  · have hc' := (isxdigit_iff c).mp hc
    have hlt : (hexCharToInt c).toNat < 16 := by
      rw [hvalue]
      split_ifs <;> omega
    refine .inl ⟨hc, hlt, UInt8.toNat_inj.mp ?_⟩
    rw [hexDigit_toNat hlt, tolower_toNat, hvalue]
    split_ifs <;> omega
  · refine .inr ⟨hc, UInt8.toNat_inj.mp ?_⟩
    rw [isxdigit_iff] at hc
    have hinvalid : invalidHexChar.toNat = 16 := rfl
    rw [hvalue, hinvalid]
    split_ifs <;> omega

theorem hexCharToInt_valid {c : UInt8} (hc : isxdigit c) : hexCharToInt c ≠ invalidHexChar ∧
    (hexCharToInt c).toNat < 16 ∧ hexDigit (hexCharToInt c).toNat = tolower c := by
  rcases hexCharToInt_spec c with ⟨_, hlt, hdigit⟩ | ⟨hnot, _⟩
  · refine ⟨fun he => ?_, hlt, hdigit⟩
    rw [he] at hlt
    exact absurd hlt (by decide)
  · exact absurd hc hnot

theorem hexCharToInt_invalid {c : UInt8} (hc : ¬ isxdigit c) :
    hexCharToInt c = invalidHexChar := by
  rcases hexCharToInt_spec c with ⟨hyes, _⟩ | ⟨_, hinvalid⟩
  · exact absurd hyes hc
  · exact hinvalid

theorem toNat_shiftLeft_or {a b : UInt8} (ha : a.toNat < 16) (hb : b.toNat < 16) :
    (a <<< 4 ||| b).toNat = 16 * a.toNat + b.toNat := by
  have hshift : (a <<< 4).toNat = a.toNat <<< 4 := by
    have hfour : 2 ^ ((4 : UInt8).toNat % 8) = 16 := rfl
    rw [UInt8.toNat_shiftLeft, Nat.shiftLeft_eq, Nat.shiftLeft_eq, hfour]
    omega
  have hadd := Nat.shiftLeft_add_eq_or_of_lt (show b.toNat < 2 ^ 4 by omega) a.toNat
  rw [UInt8.toNat_or, hshift, ← hadd, Nat.shiftLeft_eq]
  omega

/-! ## The loop -/

theorem even_of_pair {c₁ c₂ : UInt8} {s : Bytes} (h : (c₁ :: c₂ :: s).length % 2 = 0) :
    s.length % 2 = 0 := by
  simp only [List.length_cons] at h
  omega

/-- The bytes of a string of pairs of digits. -/
def decodePairs : Bytes → Bytes
  | c₁ :: c₂ :: hexString => (hexCharToInt c₁ <<< 4 ||| hexCharToInt c₂) :: decodePairs hexString
  | _ => []

theorem encodeHex_decodePairs : ∀ s : Bytes, s.length % 2 = 0 → (∀ c ∈ s, isxdigit c) →
    encodeHex (decodePairs s) = s.map tolower
  | [], _, _ => rfl
  | [_], heven, _ => by simp at heven
  | c₁ :: c₂ :: s, heven, hs => by
    obtain ⟨_, hlt₁, hdigit₁⟩ := hexCharToInt_valid (hs c₁ (by simp))
    obtain ⟨_, hlt₂, hdigit₂⟩ := hexCharToInt_valid (hs c₂ (by simp))
    have hrest := encodeHex_decodePairs s (even_of_pair heven) fun c hc => hs c (by simp [hc])
    have hhigh : (16 * (hexCharToInt c₁).toNat + (hexCharToInt c₂).toNat) / 16 =
        (hexCharToInt c₁).toNat := by omega
    have hlow : (16 * (hexCharToInt c₁).toNat + (hexCharToInt c₂).toNat) % 16 =
        (hexCharToInt c₂).toNat := by omega
    rw [encodeHex] at hrest ⊢
    rw [decodePairs, List.flatMap_cons, hrest, toNat_shiftLeft_or hlt₁ hlt₂, hhigh, hlow, hdigit₁,
      hdigit₂]
    rfl

theorem length_decodePairs : ∀ s : Bytes, (decodePairs s).length = s.length / 2
  | [] => rfl
  | [c] => by simp [decodePairs]
  | c₁ :: c₂ :: s => by
    have hrest := length_decodePairs s
    simp only [decodePairs, List.length_cons]
    omega

/-- The loop fills the buffer behind what is done, or stops at the first pair that is not of
digits. -/
theorem convertHexFrom_eq : ∀ (s done : Bytes), s.length % 2 = 0 →
    convertHexFrom (2 * done.length) (done ++ List.replicate (s.length / 2) 0) s =
      if ∀ c ∈ s, isxdigit c then some (done ++ decodePairs s) else none
  | [], done, _ => by simp [convertHexFrom, decodePairs]
  | [_], _, heven => by simp at heven
  | c₁ :: c₂ :: s, done, heven => by
    have hmem : (∀ c ∈ c₁ :: c₂ :: s, isxdigit c) ↔
        isxdigit c₁ ∧ isxdigit c₂ ∧ ∀ c ∈ s, isxdigit c := by
      simp only [List.forall_mem_cons]
    by_cases hpair : isxdigit c₁ ∧ isxdigit c₂
    · obtain ⟨h₁, h₂⟩ := hpair
      have hrest := convertHexFrom_eq s (done ++ [hexCharToInt c₁ <<< 4 ||| hexCharToInt c₂])
        (even_of_pair heven)
      have hlen : (c₁ :: c₂ :: s).length / 2 = s.length / 2 + 1 := by
        simp only [List.length_cons]
        omega
      have hindex : 2 * done.length / 2 = done.length := by omega
      have hset : (done ++ List.replicate (s.length / 2 + 1) 0).set done.length
            (hexCharToInt c₁ <<< 4 ||| hexCharToInt c₂) =
          done ++ [hexCharToInt c₁ <<< 4 ||| hexCharToInt c₂] ++
            List.replicate (s.length / 2) 0 := by
        simp [List.replicate_succ]
      have hnext : 2 * done.length + 2 =
          2 * (done ++ [hexCharToInt c₁ <<< 4 ||| hexCharToInt c₂]).length := by
        rw [List.length_append, List.length_singleton]
        omega
      have hvalid : ¬ (hexCharToInt c₁ = invalidHexChar ∨ hexCharToInt c₂ = invalidHexChar) := by
        rintro (he | he)
        · exact (hexCharToInt_valid h₁).1 he
        · exact (hexCharToInt_valid h₂).1 he
      have hdone : done ++ [hexCharToInt c₁ <<< 4 ||| hexCharToInt c₂] ++ decodePairs s =
          done ++ decodePairs (c₁ :: c₂ :: s) := by
        rw [decodePairs, List.append_assoc, List.singleton_append]
      rw [hdone] at hrest
      simp only [convertHexFrom, if_neg hvalid, hlen, hindex, hset, hnext, hrest, hmem, h₁, h₂,
        true_and]
    · have hinvalid : hexCharToInt c₁ = invalidHexChar ∨ hexCharToInt c₂ = invalidHexChar := by
        by_cases h₁ : isxdigit c₁
        · exact .inr (hexCharToInt_invalid fun h₂ => hpair ⟨h₁, h₂⟩)
        · exact .inl (hexCharToInt_invalid h₁)
      have hnot : ¬ ∀ c ∈ c₁ :: c₂ :: s, isxdigit c :=
        fun h => hpair ⟨(hmem.mp h).1, (hmem.mp h).2.1⟩
      rw [if_neg hnot]
      simp only [convertHexFrom, if_pos hinvalid]

theorem convertHexStringToBytes_eq (s : Bytes) : convertHexStringToBytes true s =
    if s.length % 2 = 0 ∧ ∀ c ∈ s, isxdigit c then some (decodePairs s) else none := by
  unfold convertHexStringToBytes
  by_cases heven : s.length % 2 = 0
  · have hloop := convertHexFrom_eq s [] heven
    simpa [heven] using hloop
  · simp [heven]

/-! ## The indications -/

theorem deliverPdu_none {call : RadioIndicationType → Bytes → SmsIndication}
    {allocated : Bool} {s : Bytes} (h : convertHexStringToBytes allocated s = none)
    (registered : Bool) (indicationType : Int32) :
    deliverPdu call registered allocated indicationType (some s) = none := by
  cases registered with
  | false => rfl
  | true => simp [deliverPdu, h]

theorem deliverPdu_some {call : RadioIndicationType → Bytes → SmsIndication}
    {allocated : Bool} {s bytes : Bytes} (hs : s ≠ [])
    (h : convertHexStringToBytes allocated s = some bytes) (hlen : bytes.length = s.length / 2)
    (indicationType : Int32) : deliverPdu call true allocated indicationType (some s) =
      some (call (convertIntToRadioIndicationType indicationType) bytes) := by
  have hlength : s.length ≠ 0 := fun he => hs (List.length_eq_zero_iff.mp he)
  simp [deliverPdu, h, hlength, ← hlen]

/-- With a buffer allocated, a non-empty string is converted exactly when it is pairs of
hexadecimal digits. Then both indications deliver the buffer, whose digits are those of the string
in lower case; otherwise they deliver nothing. -/
theorem convertHexStringToBytes_iff {s : Bytes} (hs : s ≠ []) :
    ((∃ bytes, convertHexStringToBytes true s = some bytes) ↔
      s.length % 2 = 0 ∧ ∀ c ∈ s, isxdigit c) ∧
    (∀ bytes, convertHexStringToBytes true s = some bytes →
      bytes.length = s.length / 2 ∧ encodeHex bytes = s.map tolower ∧
      ∀ indicationType,
        newSmsInd true true indicationType (some s) =
          some (.newSms (convertIntToRadioIndicationType indicationType) bytes) ∧
        newSmsStatusReportInd true true indicationType (some s) =
          some (.newSmsStatusReport (convertIntToRadioIndicationType indicationType) bytes)) ∧
    (convertHexStringToBytes true s = none → ∀ registered indicationType,
      newSmsInd registered true indicationType (some s) = none ∧
      newSmsStatusReportInd registered true indicationType (some s) = none) := by
  have heq := convertHexStringToBytes_eq s
  refine ⟨?_, fun bytes hbytes => ?_, fun hnone registered indicationType => ?_⟩
  · rw [heq]
    split <;> simp_all
  · rw [heq] at hbytes
    split at hbytes
    · rename_i hvalid
      rw [if_pos hvalid] at heq
      cases hbytes
      have hlen := length_decodePairs s
      exact ⟨hlen, encodeHex_decodePairs s hvalid.1 hvalid.2, fun indicationType =>
        ⟨deliverPdu_some hs heq hlen indicationType, deliverPdu_some hs heq hlen indicationType⟩⟩
    · cases hbytes
  · exact ⟨deliverPdu_none hnone registered indicationType,
      deliverPdu_none hnone registered indicationType⟩

/-- "07A1", and "07G1", in which a character is not a digit. -/
theorem convertHexStringToBytes_pdu :
    newSmsInd true true 1 (some [0x30, 0x37, 0x41, 0x31]) =
        some (.newSms .unsolicited [0x07, 0xa1]) ∧
      newSmsInd true true 1 (some [0x30, 0x37, 0x47, 0x31]) = none :=
  ⟨(((convertHexStringToBytes_iff (by decide)).2.1 [0x07, 0xa1] (by decide)).2.2 1).1,
    ((convertHexStringToBytes_iff (by decide)).2.2 (by decide) true 1).1⟩

end Ril
end Huashan
