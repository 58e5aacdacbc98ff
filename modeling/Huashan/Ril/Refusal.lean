import Huashan.Ril.Dispatch

/-!
# Huashan.Ril.Refusal

When the conversion of a request's arguments fails. A conversion makes a number of allocations
that depends on the request alone, and it succeeds exactly when all of them do and the values
that it checks are accepted: `HidlRequest.arguments_error_iff`.
-/

namespace Huashan
namespace Ril
namespace Conv

variable {α β : Type} {n m : Nat} {a b : Bool}

/-- The conversion makes `n` allocations and succeeds, if they do and `ok` holds. -/
structure Allocates (c : Conv α) (n : Nat) (ok : Bool) : Prop where
  succeeds : ∀ outcomes, ok = true → false ∉ outcomes.take n →
    ∃ x, c outcomes = .ok (x, outcomes.drop n)
  fails : ∀ outcomes, ok = false ∨ false ∈ outcomes.take n → ∃ e, c outcomes = .error e

theorem Allocates.error_iff {c : Conv α} (h : Allocates c n a) (outcomes : List Bool) :
    (∃ e, c outcomes = .error e) ↔ a = false ∨ false ∈ outcomes.take n := by
  refine ⟨fun ⟨e, he⟩ => ?_, h.fails outcomes⟩
  by_contra hok
  rw [not_or, Bool.not_eq_false] at hok
  obtain ⟨x, hx⟩ := h.succeeds outcomes hok.1 hok.2
  rw [hx] at he
  cases he

theorem Allocates.of_eq {c : Conv α} (h : Allocates c n a) (hn : n = m) (ha : a = b) :
    Allocates c m b := by
  subst hn ha
  exact h

theorem pure_allocates (x : α) : Allocates (pure x) 0 true where
  succeeds := fun _ _ _ => ⟨x, rfl⟩
  fails := by simp

theorem fail_allocates (e : RilErrno) (n : Nat) : Allocates (fail e : Conv α) n false where
  succeeds := by simp
  fails := fun _ _ => ⟨e, rfl⟩

theorem allocate_allocates : Allocates allocate 1 true := by
  constructor <;> intro outcomes <;> rcases outcomes with _ | ⟨_ | _, rest⟩ <;> simp [allocate]

theorem check_allocates (ok : Bool) (e : RilErrno) : Allocates (check ok e) 0 ok := by
  cases ok with
  | false => exact fail_allocates e 0
  | true => exact pure_allocates ()

theorem Allocates.bind {c : Conv α} {f : α → Conv β} (hc : Allocates c n a)
    (hf : ∀ x, Allocates (f x) m b) : Allocates (c >>= f) (n + m) (a && b) := by
  have hrun : ∀ outcomes, (c >>= f) outcomes = (c outcomes >>= fun x => f x.1 x.2) := fun _ => rfl
  refine ⟨fun outcomes hok hmem => ?_, fun outcomes hfail => ?_⟩
  · rw [Bool.and_eq_true] at hok
    rw [List.take_add, List.mem_append, not_or] at hmem
    obtain ⟨x, hx⟩ := hc.succeeds outcomes hok.1 hmem.1
    obtain ⟨y, hy⟩ := (hf x).succeeds (outcomes.drop n) hok.2 hmem.2
    rw [List.drop_drop] at hy
    exact ⟨y, by rw [hrun, hx]; exact hy⟩
  · by_cases hhead : a = false ∨ false ∈ outcomes.take n
    · obtain ⟨e, he⟩ := hc.fails outcomes hhead
      exact ⟨e, by rw [hrun, he]; rfl⟩
    · rw [not_or, Bool.not_eq_false] at hhead
      obtain ⟨x, hx⟩ := hc.succeeds outcomes hhead.1 hhead.2
      rw [hhead.1, Bool.true_and, List.take_add, List.mem_append] at hfail
      obtain ⟨e, he⟩ := (hf x).fails (outcomes.drop n)
        (hfail.imp_right fun h => h.resolve_left hhead.2)
      exact ⟨e, by rw [hrun, hx]; exact he⟩

theorem Allocates.bind_pure {c : Conv α} (hc : Allocates c n a) (f : α → β) :
    Allocates (c >>= fun x => pure (f x)) n a :=
  (hc.bind fun x => pure_allocates (f x)).of_eq rfl (Bool.and_true a)

theorem mapM_allocates {γ : Type} {f : γ → Conv β} {cost : γ → Nat} {ok : γ → Bool}
    (hf : ∀ x, Allocates (f x) (cost x) (ok x)) (xs : List γ) :
    Allocates (xs.mapM f) (xs.map cost).sum (xs.all ok) := by
  induction xs with
  | nil => exact pure_allocates []
  | cons x xs ih =>
    rw [List.mapM_cons, List.map_cons, List.sum_cons, List.all_cons]
    exact (hf x).bind fun _ => ih.bind_pure _

end Conv

open Conv

/-- The allocations of `copyHidlStringToRil`. -/
def copies (src : Bytes) (allowEmpty : Bool) : Nat :=
  if src.length = 0 ∧ ¬ allowEmpty then 0 else 1

/-- `strlen` of a HIDL string is at most its size, so that the check of the copy never fails. -/
theorem length_cStr_le (s : Bytes) : (cStr s).length ≤ s.length := by
  unfold cStr
  exact (List.takeWhile_sublist _).length_le

theorem copyHidlStringToRil_allocates (src : Bytes) (allowEmpty : Bool) :
    Allocates (copyHidlStringToRil src allowEmpty) (copies src allowEmpty) true := by
  have hlen : ¬ (cStr src).length ≥ src.length + 1 := by
    have := length_cStr_le src
    omega
  simp only [copyHidlStringToRil, copies, if_neg hlen]
  split
  · exact pure_allocates none
  · exact allocate_allocates.bind_pure _

@[simp] theorem copies_true (src : Bytes) : copies src true = 1 := by simp [copies]

theorem checkMvnoType_allocates (mvnoType : MvnoType) :
    Allocates (checkMvnoType mvnoType) 0 (convertMvnoTypeToString mvnoType).isSome := by
  unfold checkMvnoType
  cases convertMvnoTypeToString mvnoType with
  | none => exact fail_allocates _ 0
  | some str => exact pure_allocates str

/-! ## The requests -/

variable {version : Int}

/-- The values `startNetworkScan` checks in a specifier. -/
def acceptedSpecifier (spec : RadioAccessSpecifier) : Bool :=
  spec.geranBands.length ≤ maxBands && spec.utranBands.length ≤ maxBands &&
    spec.eutranBands.length ≤ maxBands && spec.channels.length ≤ maxChannels &&
    (specifierBands spec).isSome

theorem copySpecifier_allocates (spec : RadioAccessSpecifier) :
    Allocates (copySpecifier spec) 0 (acceptedSpecifier spec) := by
  unfold copySpecifier acceptedSpecifier
  refine (check_allocates _ _).bind (m := 0) fun _ => ?_
  cases specifierBands spec with
  | none => exact fail_allocates _ 0
  | some bands => exact pure_allocates _

theorem copy_allocates (src : Bytes) : Allocates (copyHidlStringToRil src true) 1 true :=
  (copyHidlStringToRil_allocates src true).of_eq (copies_true src) rfl

/-- The allocations of the copy of a data profile. -/
def profileCopies (version : Int) (info : DataProfileInfo) : Nat :=
  if version ≤ 14 then 4 else 5 + copies info.protocol false

theorem copyDataProfile_allocates (version : Int) (isRoaming : Bool) (info : DataProfileInfo) :
    Allocates (copyDataProfile version isRoaming info) (profileCopies version info)
      (version ≤ 14 || (convertMvnoTypeToString info.mvnoType).isSome) := by
  unfold copyDataProfile profileCopies
  split
  · next hversion =>
    refine Allocates.of_eq (a := true) ?_ rfl (by simp [hversion])
    exact (copy_allocates _).bind fun _ => (copy_allocates _).bind fun _ =>
      (copy_allocates _).bind fun _ => (copy_allocates _).bind_pure _
  · next hversion =>
    refine Allocates.of_eq ((copy_allocates _).bind fun _ =>
      (copyHidlStringToRil_allocates _ _).bind fun _ => (copy_allocates _).bind fun _ =>
      (copy_allocates _).bind fun _ => (copy_allocates _).bind fun _ =>
      (copy_allocates _).bind fun _ => (checkMvnoType_allocates _).bind_pure _) ?_ ?_
    · omega
    · simp [hversion]

/-- The allocations of a request for its arguments. -/
def HidlRequest.allocations (version : Int) : HidlRequest → Nat
  | .dispatchString _ str => copies (cStr str) false
  | .dispatchStrings _ allowEmpty strs => 1 + (strs.map fun str => copies (cStr str) allowEmpty).sum
  | .dispatchStringVec _ data => 1 + (data.map fun str => copies str false).sum
  | .dispatchInts .. => 1
  | .dispatchCallForwardStatus _ callInfo => copies callInfo.number false
  | .dispatchIccApdu _ message => copies message.data false
  | .dial dialInfo => copies dialInfo.address false +
      (dialInfo.uusInfo.head?.map fun uus => copies uus.uusData false).getD 0
  | .setupDataCall .. => if version ≤ 14 then 8 else 16
  | .iccIOForApp iccIo => copies iccIo.path false + (copies iccIo.data false +
      (copies iccIo.pin2 false + copies iccIo.aid false))
  | .writeSmsToSim smsWriteArgs => copies smsWriteArgs.pdu false + copies smsWriteArgs.smsc false
  | .setInitialAttachApn info _ isRoaming =>
      let login := copies info.user false + copies info.password false
      if version ≤ 14 then
        1 + (copies (if isRoaming then info.roamingProtocol else info.protocol) false + login)
      else 1 + (copies info.protocol false + (copies info.roamingProtocol false + (login +
        copies info.mvnoMatchData false)))
  | .sendImsSms message => if message.tech = 1 then
      1 + (message.gsmMessage.map fun gsm => copies gsm.smscPdu false + copies gsm.pdu false).sum
      else 0
  | .iccOpenLogicalChannel aid _ => copies (if version < 15 then cStr aid else aid) false
  | .nvWriteItem _ value => copies value false
  | .requestIccSimAuthentication _ authData aid => copies authData false + copies aid false
  | .setDataProfile profiles _ => 1 + (1 + (profiles.map (profileCopies version)).sum)
  | .setAllowedCarriers _ => 2
  | .sendDeviceState .. => 1
  | .setIndicationFilter _ => 1
  | .setCarrierInfoForImsiEncryption data =>
      copies data.mnc false + (copies data.mcc false + copies data.keyIdentifier false)
  | _ => 0

/-- The argument and version checks of a request. -/
def HidlRequest.accepted (version : Int) : HidlRequest → Bool
  | .setupDataCall _ info .. => decide (4 ≤ version) &&
      (decide (version ≤ 14) || (convertMvnoTypeToString info.mvnoType).isSome)
  | .startNetworkScan request => decide (request.specifiers.length ≤ maxRadioAccessNetworks) &&
      request.specifiers.all acceptedSpecifier
  | .setInitialAttachApn info .. =>
      decide (version ≤ 14) || (convertMvnoTypeToString info.mvnoType).isSome
  | .sendImsSms message => (message.tech == 1 && message.gsmMessage.length == 1) ||
      (message.tech == 2 && message.cdmaMessage.length == 1)
  | .setDataProfile profiles _ => profiles.all fun info =>
      decide (version ≤ 14) || (convertMvnoTypeToString info.mvnoType).isSome
  | .sendDeviceState deviceStateType _ =>
      decide (15 ≤ version) || deviceStateType == lowDataExpected
  | .setIndicationFilter _ => decide (15 ≤ version)
  | .startKeepalive keepalive => match keepaliveAddressSize keepalive.type with
    | none => false
    | some size =>
      keepalive.sourceAddress.length == size && keepalive.destinationAddress.length == size
  | _ => true

theorem dispatchStrings_allocates (request : Nat) (allowEmpty : Bool) (strs : List Bytes) :
    Allocates (dispatchStrings request allowEmpty strs).arguments
      (1 + (strs.map fun str => copies (cStr str) allowEmpty).sum) true := by
  have hstrs := mapM_allocates (fun str => copyHidlStringToRil_allocates (cStr str) allowEmpty) strs
  exact (allocate_allocates.bind fun _ => hstrs.bind_pure _).of_eq rfl (by simp)

theorem dispatchInts_allocates (request : Nat) (ints : List Int) :
    Allocates (dispatchInts request ints).arguments 1 true :=
  allocate_allocates.bind_pure _

theorem setupDataCall_allocates (version radioTechnology : Int) (info : DataProfileInfo)
    (modemCognitive roamingAllowed isRoaming : Bool) :
    Allocates (setupDataCall version radioTechnology info modemCognitive roamingAllowed
        isRoaming).arguments (if version ≤ 14 then 8 else 16)
      (decide (4 ≤ version) && (decide (version ≤ 14) ||
        (convertMvnoTypeToString info.mvnoType).isSome)) := by
  unfold setupDataCall
  by_cases hold : version ≥ 4 ∧ version ≤ 14
  · rw [if_pos hold]
    exact (dispatchStrings_allocates _ _ _).of_eq (by simp [hold.2]) (by simp [hold.1, hold.2])
  · rw [if_neg hold]
    by_cases hnew : version ≥ 15
    · have h4 : 4 ≤ version := by omega
      have h14 : ¬ version ≤ 14 := by omega
      rw [if_pos hnew]
      cases hmvno : convertMvnoTypeToString info.mvnoType with
      | none => exact (fail_allocates _ _).of_eq rfl (by simp [h14])
      | some str => exact (dispatchStrings_allocates _ _ _).of_eq (by simp [h14]) (by simp [h4])
    · have h4 : ¬ 4 ≤ version := by omega
      rw [if_neg hnew]
      exact (fail_allocates _ _).of_eq rfl (by simp [h4])

theorem setInitialAttachApn_allocates (version : Int) (info : DataProfileInfo)
    (modemCognitive isRoaming : Bool) :
    Allocates (setInitialAttachApn version info modemCognitive isRoaming).arguments
      (HidlRequest.allocations version (.setInitialAttachApn info modemCognitive isRoaming))
      (decide (version ≤ 14) || (convertMvnoTypeToString info.mvnoType).isSome) := by
  have hcopy := fun src => copyHidlStringToRil_allocates src false
  unfold setInitialAttachApn HidlRequest.allocations
  by_cases hversion : version ≤ 14
  · simp only [hversion, if_true, decide_true, Bool.true_or]
    exact (copy_allocates _).bind fun _ => (hcopy _).bind fun _ => (hcopy _).bind fun _ =>
      (hcopy _).bind_pure _
  · simp only [hversion, if_false, decide_false, Bool.false_or]
    refine Allocates.of_eq ((copy_allocates _).bind fun _ => (hcopy _).bind fun _ =>
      (hcopy _).bind fun _ => (hcopy _).bind fun _ => (hcopy _).bind fun _ =>
      (checkMvnoType_allocates _).bind fun _ => (hcopy _).bind_pure _) ?_ ?_
    · omega
    · simp

theorem dial_allocates (dialInfo : Dial) : Allocates (dial dialInfo).arguments
    (HidlRequest.allocations version (.dial dialInfo)) true := by
  have hcopy := fun src => copyHidlStringToRil_allocates src false
  unfold dial HidlRequest.allocations
  refine (hcopy _).bind fun address => ?_
  cases dialInfo.uusInfo with
  | nil => exact pure_allocates _
  | cons uus _ =>
    dsimp only
    split
    · next hlen =>
      have hcopies : copies uus.uusData false = 0 := if_pos ⟨hlen, Bool.false_ne_true⟩
      exact ((pure_allocates _).bind_pure _).of_eq hcopies.symm rfl
    · exact (hcopy _).bind_pure _

theorem sendImsSms_allocates (message : ImsSmsMessage) : Allocates (sendImsSms message).arguments
    (HidlRequest.allocations version (.sendImsSms message))
    ((message.tech == 1 && message.gsmMessage.length == 1) ||
      (message.tech == 2 && message.cdmaMessage.length == 1)) := by
  have hcopy := fun src => copyHidlStringToRil_allocates src false
  unfold sendImsSms HidlRequest.allocations
  by_cases hgsm : message.tech = 1
  · simp only [hgsm, if_true, dispatchImsGsmSms]
    rcases message.gsmMessage with _ | ⟨gsm, _ | ⟨gsm', rest⟩⟩
    · exact fail_allocates _ _
    · exact allocate_allocates.bind fun _ => (hcopy _).bind fun _ => (hcopy _).bind_pure _
    · exact fail_allocates _ _
  · by_cases hcdma : message.tech = 2
    · simp only [hcdma, dispatchImsCdmaSms]
      rcases message.cdmaMessage with _ | ⟨cdma, _ | ⟨cdma', rest⟩⟩
      · exact fail_allocates _ _
      · exact pure_allocates _
      · exact fail_allocates _ _
    · simp only [hgsm, hcdma, if_false]
      exact (fail_allocates _ 0).of_eq rfl (by simp [hgsm, hcdma])

theorem setDataProfile_allocates (version : Int) (profiles : List DataProfileInfo)
    (isRoaming : Bool) : Allocates (setDataProfile version profiles isRoaming).arguments
      (1 + (1 + (profiles.map (profileCopies version)).sum))
      (profiles.all fun info =>
        decide (version ≤ 14) || (convertMvnoTypeToString info.mvnoType).isSome) := by
  have hprofiles := mapM_allocates (copyDataProfile_allocates version isRoaming) profiles
  exact (allocate_allocates.bind fun _ => allocate_allocates.bind fun _ =>
    hprofiles.bind_pure _).of_eq rfl (by simp)

theorem startKeepalive_allocates (keepalive : KeepaliveRequest) :
    Allocates (startKeepalive keepalive).arguments 0
      (HidlRequest.accepted version (.startKeepalive keepalive)) := by
  simp only [startKeepalive, HidlRequest.accepted]
  cases keepaliveAddressSize keepalive.type with
  | none => exact fail_allocates _ _
  | some size => exact (check_allocates _ _).bind_pure _

theorem HidlRequest.dispatch_allocates (version : Int) (r : HidlRequest) :
    Allocates (r.dispatch version).arguments (r.allocations version) (r.accepted version) := by
  have hcopy := fun src => copyHidlStringToRil_allocates src false
  cases r with
  | dispatchVoid request => exact pure_allocates _
  | dispatchString request str => exact (hcopy _).bind_pure _
  | dispatchStrings request allowEmpty strs =>
    exact dispatchStrings_allocates request allowEmpty strs
  | dispatchStringVec request data =>
    have hstrs := mapM_allocates (fun str => hcopy str) data
    exact (allocate_allocates.bind fun _ => hstrs.bind_pure _).of_eq rfl (by simp [accepted])
  | dispatchInts request ints => exact dispatchInts_allocates request ints
  | dispatchCallForwardStatus request callInfo => exact (hcopy _).bind_pure _
  | dispatchRaw request rawBytes => exact pure_allocates _
  | dispatchIccApdu request message => exact (hcopy _).bind_pure _
  | dispatchPlain request numbers => exact pure_allocates _
  | dial dialInfo => exact dial_allocates dialInfo
  | setupDataCall radioTechnology info modemCognitive roamingAllowed isRoaming =>
    exact setupDataCall_allocates version radioTechnology info modemCognitive roamingAllowed
      isRoaming
  | iccIOForApp iccIo =>
    exact (hcopy _).bind fun _ => (hcopy _).bind fun _ => (hcopy _).bind fun _ =>
      (hcopy _).bind_pure _
  | startNetworkScan request =>
    have hspecifiers := mapM_allocates copySpecifier_allocates request.specifiers
    exact ((check_allocates _ _).bind fun _ => hspecifiers.bind_pure _).of_eq
      (by simp [allocations, List.map_const']) (by simp [accepted])
  | writeSmsToSim smsWriteArgs => exact (hcopy _).bind fun _ => (hcopy _).bind_pure _
  | setInitialAttachApn info modemCognitive isRoaming =>
    exact setInitialAttachApn_allocates version info modemCognitive isRoaming
  | sendImsSms message => exact sendImsSms_allocates message
  | iccOpenLogicalChannel aid p2 =>
    simp only [dispatch, Ril.iccOpenLogicalChannel, allocations]
    split
    · exact (hcopy _).bind_pure _
    · exact (hcopy _).bind_pure _
  | nvWriteItem itemId value => exact (hcopy _).bind_pure _
  | requestIccSimAuthentication authContext authData aid =>
    exact (hcopy _).bind fun _ => (hcopy _).bind_pure _
  | setDataProfile profiles isRoaming => exact setDataProfile_allocates version profiles isRoaming
  | setAllowedCarriers carriers =>
    exact allocate_allocates.bind fun _ => allocate_allocates.bind_pure _
  | sendDeviceState deviceStateType state =>
    simp only [dispatch, Ril.sendDeviceState, accepted]
    split
    · next hversion =>
      have hold : ¬ 15 ≤ version := by omega
      split
      · next htype => exact (dispatchInts_allocates _ _).of_eq rfl (by simp [htype])
      · next htype => exact (fail_allocates _ _).of_eq rfl (by simp [hold, htype])
    · next hversion => exact (dispatchInts_allocates _ _).of_eq rfl (by simp; omega)
  | setIndicationFilter indicationFilter =>
    simp only [dispatch, Ril.setIndicationFilter, accepted]
    split
    · next hversion => exact (fail_allocates _ _).of_eq rfl (by simp; omega)
    · next hversion => exact (dispatchInts_allocates _ _).of_eq rfl (by simp; omega)
  | setCarrierInfoForImsiEncryption data =>
    exact (hcopy _).bind fun _ => (hcopy _).bind fun _ => (hcopy _).bind_pure _
  | startKeepalive keepalive => exact startKeepalive_allocates keepalive

/-- A dispatch function leaves with an error exactly when it rejects the request or one of its
allocations fails. -/
theorem HidlRequest.arguments_error_iff (version : Int) (r : HidlRequest) (outcomes : List Bool) :
    (∃ e, (r.dispatch version).arguments outcomes = .error e) ↔
      r.accepted version = false ∨ false ∈ outcomes.take (r.allocations version) :=
  (r.dispatch_allocates version).error_iff outcomes

end Ril
end Huashan
