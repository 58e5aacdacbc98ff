import Huashan.Ril.Dispatch

/-!
# Huashan.Ril.ResponseInfo

What the response functions of `ril_service.cpp` have in common: the header of a response, and the
strings that the vendor gives as `char *`. What is undefined in C++ is a `Fault`.
-/

namespace Huashan
namespace Ril

inductive RadioResponseType where
  | solicited
  | solicitedAckExp
  deriving DecidableEq, Repr

/-- A `RIL_Errno` of the vendor, or the one that the response functions set themselves. -/
inductive RadioError where
  | ofErrno (e : RilErrno)
  | invalidResponse
  deriving DecidableEq, Repr

structure RadioResponseInfo where
  type : RadioResponseType
  serial : Int32
  error : RadioError
  deriving DecidableEq, Repr

def responseSolicitedAckExp : Int32 := 3

/-- A type that the `switch` does not name leaves the zero that the structure starts with. -/
def populateResponseInfo (serial responseType : Int32) (e : RilErrno) : RadioResponseInfo where
  type := if responseType = responseSolicitedAckExp then .solicitedAckExp else .solicited
  serial := serial
  error := .ofErrno e

/-- `INVALID_RESPONSE`, in place of a success only. -/
def RadioResponseInfo.invalidate (info : RadioResponseInfo) (e : RilErrno) : RadioResponseInfo :=
  if e = rilESuccess then { info with error := .invalidResponse } else info

/-- A `char *` is the string that it points to, or `NULL`. -/
def convertCharPtrToHidlString (ptr : Option Bytes) : Bytes :=
  match ptr with
  | none => []
  | some str => cStr str

/-! ## Arrays of strings -/

inductive Fault where
  | divisionByZero
  /-- An array is indexed outside of its bounds. -/
  | outOfBounds
  | nullDereference
  /-- A length is computed from a position that was not found. -/
  | missingPosition
  /-- An unsigned product does not fit; the build aborts. -/
  | overflow
  deriving DecidableEq, Repr

/-- A response that is an array of `char *`, with its length in bytes on the 32-bit target. -/
structure StringArray where
  entries : Option (List (Option Bytes))
  responseLen : UInt32
  length_eq : ∀ l ∈ entries, responseLen.toNat = 4 * l.length

/-- `responseLen / sizeof(char *)`. -/
def StringArray.numStrings (response : StringArray) : Nat := response.responseLen.toNat / 4

def readEntry (resp : List (Option Bytes)) (i : Int) : Except Fault (Option Bytes) :=
  if i < 0 then .error .outOfBounds
  else
    match resp[i.toNat]? with
    | some entry => .ok entry
    | none => .error .outOfBounds

/-- What a function that does not check for `NULL` reads. -/
def dereference (ptr : Option Bytes) : Except Fault Bytes :=
  match ptr with
  | some str => .ok (cStr str)
  | none => .error .nullDereference

theorem bind_eq_ok {ε α β : Type} {x : Except ε α} {f : α → Except ε β} {b : β}
    (h : x >>= f = .ok b) : ∃ a, x = .ok a ∧ f a = .ok b := by
  cases x with
  | ok a => exact ⟨a, rfl, h⟩
  | error e => cases h

theorem readEntry_of_getElem? {resp : List (Option Bytes)} {i : Nat} {entry : Option Bytes}
    (h : resp[i]? = some entry) : readEntry resp i = .ok entry := by
  rw [readEntry, if_neg (by omega), Int.toNat_natCast, h]

/-- Without `NULL`, the length is that of the entries. -/
theorem StringArray.numStrings_eq {response : StringArray} {l : List (Option Bytes)}
    (h : response.entries = some l) : response.numStrings = l.length := by
  rw [StringArray.numStrings, response.length_eq l h]
  omega

end Ril
end Huashan
