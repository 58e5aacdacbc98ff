import Huashan.Ril.Pending

/-!
# Huashan.Ril.Arguments

What becomes of the string arguments of a request. `copyHidlStringToRil` copies what `c_str()` shows
of a HIDL string, up to its first NUL. The check that follows compares the length of that with the
size of the buffer and only finds a `c_str()` that is longer than `size()`, which none is.

`arrives_iff`: the strings reach the vendor intact, or the request is answered with an error,
exactly when there is memory for the request itself and either no string has a NUL or the
conversion runs out of memory while the response functions are there.
-/

namespace Huashan
namespace Ril
namespace Conv

variable {α β : Type}

/-- The conversion gives `x` if it gives anything, and can only fail for want of memory. -/
structure Yields (c : Conv α) (x : α) : Prop where
  ok : ∀ outcomes y rest, c outcomes = .ok (y, rest) → y = x
  error : ∀ outcomes e, c outcomes = .error e → e = rilENoMemory

theorem pure_yields (x : α) : Yields (pure x) x where
  ok := fun _ _ _ h => by
    cases h
    rfl
  error := fun _ _ h => by cases h

theorem allocate_yields : Yields allocate () where
  ok := fun _ _ _ _ => rfl
  error := by
    intro outcomes e h
    match outcomes with
    | [] => cases h
    | true :: rest => cases h
    | false :: rest =>
      cases h
      rfl

theorem Yields.bind {c : Conv α} {f : α → Conv β} {x : α} {y : β} (hc : Yields c x)
    (hf : Yields (f x) y) : Yields (c >>= f) y := by
  have hrun : ∀ outcomes, (c >>= f) outcomes = (c outcomes >>= fun r => f r.1 r.2) := fun _ => rfl
  constructor
  · intro outcomes z rest h
    rw [hrun] at h
    cases hx : c outcomes with
    | error e =>
      rw [hx] at h
      cases h
    | ok r =>
      rw [hx] at h
      have hr : r.1 = x := hc.ok outcomes r.1 r.2 hx
      rw [← hr] at hf
      exact hf.ok r.2 z rest h
  · intro outcomes e h
    rw [hrun] at h
    cases hx : c outcomes with
    | error e' =>
      rw [hx] at h
      cases h
      exact hc.error outcomes e hx
    | ok r =>
      rw [hx] at h
      have hr : r.1 = x := hc.ok outcomes r.1 r.2 hx
      rw [← hr] at hf
      exact hf.error r.2 e h

theorem Yields.bind_pure {c : Conv α} {x : α} (hc : Yields c x) (f : α → β) :
    Yields (c >>= fun z => pure (f z)) (f x) :=
  hc.bind (pure_yields (f x))

theorem mapM_yields {f : α → Conv β} {g : α → β} (hf : ∀ x, Yields (f x) (g x)) (xs : List α) :
    Yields (xs.mapM f) (xs.map g) := by
  induction xs with
  | nil => exact pure_yields []
  | cons x xs ih =>
    rw [List.mapM_cons, List.map_cons]
    exact (hf x).bind (ih.bind_pure _)

end Conv

open Conv

/-! ## One string -/

/-- What the vendor gets for a HIDL string when it is copied. -/
def copied (allowEmpty : Bool) (src : Bytes) : Option Bytes :=
  if src.length = 0 ∧ ¬ allowEmpty then none else some (cStr src)

/-- What it would get if the copy were complete. -/
def intact (allowEmpty : Bool) (src : Bytes) : Option Bytes :=
  if src.length = 0 ∧ ¬ allowEmpty then none else some src

theorem copyHidlStringToRil_yields (src : Bytes) (allowEmpty : Bool) :
    Yields (copyHidlStringToRil src allowEmpty) (copied allowEmpty src) := by
  have hlen : ¬ (cStr src).length ≥ src.length + 1 := by
    have := length_cStr_le src
    omega
  simp only [copyHidlStringToRil, copied, if_neg hlen]
  split
  · exact pure_yields none
  · exact allocate_yields.bind_pure _

theorem cStr_eq_self_iff (s : Bytes) : cStr s = s ↔ 0 ∉ s := by
  unfold cStr
  rw [List.takeWhile_eq_self_iff]
  constructor
  · intro h hmem
    simpa using h 0 hmem
  · intro h b hb
    simpa using fun hzero : b = 0 => h (hzero ▸ hb)

theorem cStr_cStr (s : Bytes) : cStr (cStr s) = cStr s := by
  rw [cStr_eq_self_iff]
  intro hmem
  have hzero := List.mem_takeWhile_imp (p := fun b : UInt8 => b != 0) hmem
  cases hzero

/-- A string is copied completely exactly when it has no NUL. -/
theorem copied_eq_intact_iff (allowEmpty : Bool) (s : Bytes) :
    copied allowEmpty s = intact allowEmpty s ↔ 0 ∉ s := by
  unfold copied intact
  split
  · next h =>
    rw [List.length_eq_zero_iff.mp h.1]
    simp
  · rw [Option.some.injEq]
    exact cStr_eq_self_iff s

/-- The same when the string is made from `c_str()` before it is copied. -/
theorem copied_cStr_eq_intact_iff (allowEmpty : Bool) (s : Bytes) :
    copied allowEmpty (cStr s) = intact allowEmpty s ↔ 0 ∉ s := by
  constructor
  · intro h
    rw [← cStr_eq_self_iff]
    unfold copied intact at h
    rw [cStr_cStr] at h
    split at h
    · next hempty =>
      split at h
      · next hs => rw [List.length_eq_zero_iff.mp hempty.1, List.length_eq_zero_iff.mp hs.1]
      · cases h
    · split at h
      · cases h
      · exact Option.some.inj h
  · intro h
    rw [(cStr_eq_self_iff s).mpr h]
    exact (copied_eq_intact_iff allowEmpty s).mpr h

/-! ## The requests with string arguments -/

inductive StringRequest where
  | dispatchString (request : Nat) (str : Bytes)
  | dispatchStrings (request : Nat) (allowEmpty : Bool) (strs : List Bytes)
  | dispatchStringVec (request : Nat) (data : List Bytes)
  | dispatchIccApdu (request : Nat) (message : SimApdu)
  | dispatchCallForwardStatus (request : Nat) (callInfo : CallForwardInfo)

/-- The strings of the payload of `onRequest`. -/
def Payload.strs : Payload → List (Option Bytes)
  | .string str => [str]
  | .strings strs => strs
  | .struct _ strs => strs
  | _ => []

namespace StringRequest

def toHidl : StringRequest → HidlRequest
  | .dispatchString request str => .dispatchString request str
  | .dispatchStrings request allowEmpty strs => .dispatchStrings request allowEmpty strs
  | .dispatchStringVec request data => .dispatchStringVec request data
  | .dispatchIccApdu request message => .dispatchIccApdu request message
  | .dispatchCallForwardStatus request callInfo => .dispatchCallForwardStatus request callInfo

def request : StringRequest → Nat
  | .dispatchString request _ => request
  | .dispatchStrings request _ _ => request
  | .dispatchStringVec request _ => request
  | .dispatchIccApdu request _ => request
  | .dispatchCallForwardStatus request _ => request

def allowEmpty : StringRequest → Bool
  | .dispatchStrings _ allowEmpty _ => allowEmpty
  | _ => false

def strs : StringRequest → List Bytes
  | .dispatchString _ str => [str]
  | .dispatchStrings _ _ strs => strs
  | .dispatchStringVec _ data => data
  | .dispatchIccApdu _ message => [message.data]
  | .dispatchCallForwardStatus _ callInfo => [callInfo.number]

/-- What is copied of an argument: the first two functions take it as a `const char *`. -/
def passed : StringRequest → Bytes → Option Bytes
  | .dispatchString _ _, str => copied false (cStr str)
  | .dispatchStrings _ allowEmpty _, str => copied allowEmpty (cStr str)
  | _, str => copied false str

theorem passed_eq_intact_iff (r : StringRequest) (str : Bytes) :
    r.passed str = intact r.allowEmpty str ↔ 0 ∉ str := by
  cases r with
  | dispatchString request str' => exact copied_cStr_eq_intact_iff false str
  | dispatchStrings request allowEmpty strs => exact copied_cStr_eq_intact_iff allowEmpty str
  | dispatchStringVec request data => exact copied_eq_intact_iff false str
  | dispatchIccApdu request message => exact copied_eq_intact_iff false str
  | dispatchCallForwardStatus request callInfo => exact copied_eq_intact_iff false str

theorem arguments_yields (r : StringRequest) (version : Int) :
    ∃ payload, payload.strs = r.strs.map r.passed ∧
      Yields (r.toHidl.dispatch version).arguments payload := by
  have hcopy := fun allowEmpty src => copyHidlStringToRil_yields src allowEmpty
  cases r with
  | dispatchString request str =>
    exact ⟨.string (copied false (cStr str)), rfl, (hcopy false (cStr str)).bind_pure _⟩
  | dispatchStrings request allowEmpty strs =>
    exact ⟨.strings (strs.map fun str => copied allowEmpty (cStr str)), rfl,
      allocate_yields.bind
        ((mapM_yields (fun str => hcopy allowEmpty (cStr str)) strs).bind_pure _)⟩
  | dispatchStringVec request data =>
    exact ⟨.strings (data.map (copied false)), rfl,
      allocate_yields.bind ((mapM_yields (hcopy false) data).bind_pure _)⟩
  | dispatchIccApdu request message =>
    exact ⟨.struct _ [copied false message.data], rfl, (hcopy false message.data).bind_pure _⟩
  | dispatchCallForwardStatus request callInfo =>
    exact ⟨.struct _ [copied false callInfo.number], rfl,
      (hcopy false callInfo.number).bind_pure _⟩

theorem request_dispatch (r : StringRequest) (version : Int) :
    (r.toHidl.dispatch version).request = r.request := by
  cases r <;> rfl

theorem accepted (r : StringRequest) (version : Int) : r.toHidl.accepted version = true := by
  cases r <;> rfl

/-- An allocation of the conversion fails. -/
def RunsOut (r : StringRequest) (version : Int) (outcomes : List Bool) : Prop :=
  false ∈ outcomes.take (r.toHidl.allocations version)

end StringRequest

/-! ## Whole requests -/

namespace State

variable (cfg : Config) (s : State) (serial : Int32) (slotId : Nat) (r : StringRequest)
  (alloc : Option Nat) (outcomes : List Bool)

/-- The vendor gets all strings as they are, or it gets nothing and an error is sent. -/
def Arrives : Prop :=
  ∃ s', s.dispatch cfg serial slotId (r.toHidl.dispatch cfg.version) alloc outcomes = some s' ∧
    ((∃ call, s'.issued = call :: s.issued ∧ call.origin.serial = serial ∧
        call.payload.strs = r.strs.map (intact r.allowEmpty)) ∨
      (s'.issued = s.issued ∧ ∃ response, s'.responses = response :: s.responses ∧
        response.serial = serial ∧ response.error ≠ rilESuccess))

theorem dispatch_total : ∃ s',
    s.dispatch cfg serial slotId (r.toHidl.dispatch cfg.version) alloc outcomes = some s' := by
  have hchecks : (r.toHidl.dispatch cfg.version).checksNull = true := by
    cases r <;> rfl
  unfold dispatch
  split
  · rw [hchecks]
    exact ⟨_, rfl⟩
  · split <;> exact ⟨_, rfl⟩

theorem responses_respond (info : RequestInfo) (expectsAck : Bool) (e : RilErrno)
    (completed : Origin) : (s.respond info expectsAck e completed).responses =
      if s.hasCallback info.requestNumber then
        ⟨info.socketId, info.token, expectsAck, e, info.id, completed⟩ :: s.responses
      else s.responses := by
  unfold respond
  split <;> rfl

theorem issued_respond (info : RequestInfo) (expectsAck : Bool) (e : RilErrno)
    (completed : Origin) : (s.respond info expectsAck e completed).issued = s.issued := by
  unfold respond
  split <;> rfl

variable {cfg s serial slotId r alloc outcomes}

theorem arrives_of_issued {s' : State} {call : Issued}
    (h : s.dispatch cfg serial slotId (r.toHidl.dispatch cfg.version) alloc outcomes = some s')
    (hissued : s'.issued = call :: s.issued) (hserial : call.origin.serial = serial)
    (hstrs : call.payload.strs = r.strs.map r.passed) :
    s.Arrives cfg serial slotId r alloc outcomes ↔ ∀ str ∈ r.strs, 0 ∉ str := by
  have hexact : r.strs.map r.passed = r.strs.map (intact r.allowEmpty) ↔
      ∀ str ∈ r.strs, 0 ∉ str := by
    rw [List.map_inj_left]
    exact forall₂_congr fun str _ => r.passed_eq_intact_iff str
  rw [← hexact, ← hstrs]
  constructor
  · rintro ⟨t, ht, harrives⟩
    cases h.symm.trans ht
    obtain ⟨call', hcall', _, hintact⟩ | ⟨hnone, _⟩ := harrives
    · cases hissued.symm.trans hcall'
      exact hintact
    · rw [hissued] at hnone
      exact absurd hnone (List.cons_ne_self _ _)
  · intro hintact
    exact ⟨s', h, .inl ⟨call, hissued, hserial, hintact⟩⟩

theorem arrives_of_refused {s' : State} {info : RequestInfo} {t : State} {completed : Origin}
    (h : s.dispatch cfg serial slotId (r.toHidl.dispatch cfg.version) alloc outcomes = some s')
    (hs' : s' = t.respond info false rilENoMemory completed) (hissued : t.issued = s.issued)
    (hresponses : t.responses = s.responses) (hcallback : t.hasCallback = s.hasCallback)
    (hnumber : info.requestNumber = r.request) (hserial : info.token = serial) :
    s.Arrives cfg serial slotId r alloc outcomes ↔ s.hasCallback r.request = true := by
  have hissued' : s'.issued = s.issued := by rw [hs', issued_respond, hissued]
  have hresponses' := responses_respond t info false rilENoMemory completed
  rw [← hs', hresponses, hcallback, hnumber] at hresponses'
  constructor
  · rintro ⟨u, hu, harrives⟩
    cases h.symm.trans hu
    obtain ⟨call, hcall, _⟩ | ⟨_, response, hresponse, _⟩ := harrives
    · rw [hissued'] at hcall
      exact absurd hcall.symm (List.cons_ne_self _ _)
    · by_contra hno
      rw [if_neg hno, hresponse] at hresponses'
      exact absurd hresponses' (List.cons_ne_self _ _)
  · intro hyes
    rw [if_pos hyes] at hresponses'
    have herror : rilENoMemory ≠ rilESuccess := by decide
    exact ⟨s', h, .inr ⟨hissued', _, hresponses', hserial, herror⟩⟩

variable (cfg s serial slotId r alloc outcomes)

/-- In every state: the strings reach the vendor intact or an error is sent, exactly when the
request is known and there is memory for its `RequestInfo`, and either the conversion runs out of
memory and there are response functions, or it does not and no string has a NUL. -/
theorem arrives_iff : s.Arrives cfg serial slotId r alloc outcomes ↔
    (r.request < numCommands ∧ alloc.isSome) ∧
      ((r.RunsOut cfg.version outcomes ∧ s.hasCallback r.request = true) ∨
        (¬r.RunsOut cfg.version outcomes ∧ ∀ str ∈ r.strs, 0 ∉ str)) := by
  obtain ⟨s', h⟩ := dispatch_total cfg s serial slotId r alloc outcomes
  obtain ⟨payload, hstrs, hyields⟩ := r.arguments_yields cfg.version
  have herror := r.toHidl.arguments_error_iff cfg.version outcomes
  rw [r.accepted, or_iff_right Bool.true_eq_false.mp] at herror
  have hcases := dispatch_cases h
  rw [r.request_dispatch] at hcases
  obtain ⟨rfl, hno⟩ | ⟨pRI, hrequest, halloc, ⟨e, he, hs'⟩ | ⟨payload', rest, hok, hs'⟩⟩ := hcases
  · refine iff_of_false ?_ fun hcond => hno hcond.1
    rintro ⟨t, ht, harrives⟩
    cases h.symm.trans ht
    obtain ⟨call, hcall, _⟩ | ⟨_, response, hresponse, _⟩ := harrives
    · exact absurd hcall.symm (List.cons_ne_self _ _)
    · exact absurd hresponse.symm (List.cons_ne_self _ _)
  · have hout : r.RunsOut cfg.version outcomes := herror.mp ⟨e, he⟩
    rw [hyields.error outcomes e he] at hs'
    rw [arrives_of_refused h hs' rfl rfl rfl rfl rfl]
    simp only [hrequest, halloc, hout, Option.isSome_some, and_self, true_and, not_true_eq_false,
      false_and, or_false]
  · have hin : ¬r.RunsOut cfg.version outcomes := by
      intro hout
      obtain ⟨e, he⟩ := herror.mpr hout
      rw [hok] at he
      cases he
    cases hyields.ok outcomes payload' rest hok
    have hissued := congrArg State.issued hs'
    rw [arrives_of_issued h hissued rfl hstrs]
    simp only [hrequest, halloc, hin, Option.isSome_some, and_self, true_and, not_false_eq_true,
      false_and, false_or]

/-- The vendor gets only what is ahead of a NUL. -/
theorem nul_cuts : ¬∀ (cfg : Config) (s : State) (serial : Int32) (slotId : Nat)
    (r : StringRequest) (alloc : Option Nat) (outcomes : List Bool),
    s.Arrives cfg serial slotId r alloc outcomes := by
  intro h
  obtain ⟨s', hs', harrives⟩ := h ⟨1, 14, fun _ => 0⟩ (init fun _ => true) 1 0
    (.dispatchString rilRequestNvWriteItem [0x31, 0, 0x32]) (some 1) []
  cases hs'
  obtain ⟨call, hcall, _, hstrs⟩ | ⟨hnone, _⟩ := harrives
  · cases hcall
    revert hstrs
    decide
  · cases hnone

end State
end Ril
end Huashan
