import Huashan.Run

/-!
# Huashan.Camera.Callbacks

The callbacks of the camera wrapper. `camera_set_callbacks` keeps the client's functions and its
cookie in globals and gives the vendor device functions of the wrapper, which call what is in the
globals, whatever device they are called for.

`rightClient_iff`: a callback reaches the client of its device exactly when the last client that
was registered on any device has the same function and the same cookie.
-/

namespace Huashan
namespace Camera

/-- The arguments of `camera_set_callbacks`. -/
structure Client (φ υ : Type*) where
  notifyCb : φ
  dataCb : φ
  dataCbTimestamp : φ
  getMemory : φ
  user : υ

inductive CallbackKind where
  | notify
  | data
  | dataTimestamp
  | getMemory
  deriving DecidableEq, Repr

def Client.callback {φ υ : Type*} (c : Client φ υ) : CallbackKind → φ
  | .notify => c.notifyCb
  | .data => c.dataCb
  | .dataTimestamp => c.dataCbTimestamp
  | .getMemory => c.getMemory

/-- A call of a client's function, and the client that the vendor device belongs to. -/
structure Invocation (φ υ α : Type*) where
  kind : CallbackKind
  function : φ
  args : α
  user : Option υ
  client : Client φ υ

/-- `δ` are the devices, `φ` function pointers, `υ` cookies and `α` arguments. -/
structure WrapperState (δ φ υ α : Type*) where
  gUserNotifyCb : Option φ
  gUserDataCb : Option φ
  gUserDataCbTimestamp : Option φ
  gUserGetMemory : Option φ
  gUserCameraDevice : Option υ
  /-- The `user` of a vendor device that has callbacks. -/
  vendorUser : δ → Option υ
  /-- All calls of `camera_set_callbacks`, the last one first. -/
  calls : List (δ × Client φ υ)
  invocations : List (Invocation φ υ α)

inductive CallbackEvent (δ φ υ α : Type*) where
  | setCallbacks (device : δ) (client : Client φ υ)
  /-- A vendor device calls one of its callbacks. -/
  | fire (device : δ) (kind : CallbackKind) (args : α)

namespace WrapperState

variable {δ φ υ α : Type*}

def init : WrapperState δ φ υ α where
  gUserNotifyCb := none
  gUserDataCb := none
  gUserDataCbTimestamp := none
  gUserGetMemory := none
  gUserCameraDevice := none
  vendorUser := fun _ => none
  calls := []
  invocations := []

/-- The client of the last `camera_set_callbacks` on a device. -/
def registered [DecidableEq δ] (s : WrapperState δ φ υ α) (device : δ) : Option (Client φ υ) :=
  (s.calls.find? fun c => c.1 = device).map Prod.snd

/-- The client of the last `camera_set_callbacks` on any device. -/
def lastRegistered (s : WrapperState δ φ υ α) : Option (Client φ υ) := s.calls.head?.map Prod.snd

def cameraSetCallbacks [DecidableEq δ] (s : WrapperState δ φ υ α) (device : δ)
    (client : Client φ υ) : WrapperState δ φ υ α :=
  { s with
    gUserNotifyCb := some client.notifyCb
    gUserDataCb := some client.dataCb
    gUserDataCbTimestamp := some client.dataCbTimestamp
    gUserGetMemory := some client.getMemory
    gUserCameraDevice := some client.user
    vendorUser := Function.update s.vendorUser device (some client.user)
    calls := (device, client) :: s.calls }

/-! The functions that the vendor calls, with the function and the cookie that they use; a `NULL`
function crashes. -/

def cameraNotifyCb (s : WrapperState δ φ υ α) (_user : υ) : Option (φ × Option υ) :=
  s.gUserNotifyCb.map (·, s.gUserCameraDevice)

def cameraDataCb (s : WrapperState δ φ υ α) (_user : υ) : Option (φ × Option υ) :=
  s.gUserDataCb.map (·, s.gUserCameraDevice)

def cameraDataCbTimestamp (s : WrapperState δ φ υ α) (_user : υ) : Option (φ × Option υ) :=
  s.gUserDataCbTimestamp.map (·, s.gUserCameraDevice)

def cameraGetMemory (s : WrapperState δ φ υ α) (_user : υ) : Option (φ × Option υ) :=
  s.gUserGetMemory.map (·, s.gUserCameraDevice)

def wrapperCallback (s : WrapperState δ φ υ α) (user : υ) : CallbackKind → Option (φ × Option υ)
  | .notify => s.cameraNotifyCb user
  | .data => s.cameraDataCb user
  | .dataTimestamp => s.cameraDataCbTimestamp user
  | .getMemory => s.cameraGetMemory user

def step [DecidableEq δ] (s : WrapperState δ φ υ α) :
    CallbackEvent δ φ υ α → Option (WrapperState δ φ υ α)
  | .setCallbacks device client => some (s.cameraSetCallbacks device client)
  | .fire device kind args =>
    match s.vendorUser device, s.registered device with
    | some user, some client => (s.wrapperCallback user kind).map fun used =>
      { s with invocations := ⟨kind, used.1, args, used.2, client⟩ :: s.invocations }
    | _, _ => none

/-- Every call used the function and the cookie of the device's client. -/
def RightClient (s : WrapperState δ φ υ α) : Prop :=
  ∀ i ∈ s.invocations, i.function = i.client.callback i.kind ∧ i.user = some i.client.user

/-- The last client of any device has the function and the cookie of the device's client. -/
def SameClient [DecidableEq δ] (s : WrapperState δ φ υ α) : CallbackEvent δ φ υ α → Prop
  | .setCallbacks _ _ => True
  | .fire device kind _ => ∀ client, s.registered device = some client →
      ∀ last, s.lastRegistered = some last →
        last.callback kind = client.callback kind ∧ last.user = client.user

/-! ## The globals -/

/-- The globals are those of the last call. -/
structure Globals (s : WrapperState δ φ υ α) : Prop where
  callback : ∀ user kind, s.wrapperCallback user kind =
    s.lastRegistered.map fun c => (c.callback kind, some c.user)

theorem globals_init : (init : WrapperState δ φ υ α).Globals := by
  constructor
  intro user kind
  cases kind <;> rfl

variable [DecidableEq δ]

theorem globals_cameraSetCallbacks (s : WrapperState δ φ υ α) (device : δ)
    (client : Client φ υ) : (s.cameraSetCallbacks device client).Globals := by
  constructor
  intro user kind
  cases kind <;> rfl

/-- A callback of a vendor device calls the function of the last client. -/
theorem fire_cases {s s' : WrapperState δ φ υ α} {device : δ} {kind : CallbackKind} {args : α}
    (hs : s.Globals) (h : s.step (.fire device kind args) = some s') :
    ∃ client last, s.registered device = some client ∧ s.lastRegistered = some last ∧
      s' = { s with invocations :=
        ⟨kind, last.callback kind, args, some last.user, client⟩ :: s.invocations } := by
  simp only [step] at h
  split at h
  · next user client _ hclient =>
    rw [hs.callback, Option.map_map, Option.map_eq_some_iff] at h
    obtain ⟨last, hlast, h⟩ := h
    exact ⟨client, last, hclient, hlast, h.symm⟩
  · cases h

theorem Globals.step {s s' : WrapperState δ φ υ α} {ev : CallbackEvent δ φ υ α} (hs : s.Globals)
    (h : s.step ev = some s') : s'.Globals := by
  cases ev with
  | setCallbacks device client =>
    cases h
    exact globals_cameraSetCallbacks s device client
  | fire device kind args =>
    obtain ⟨client, last, _, _, rfl⟩ := fire_cases hs h
    constructor
    intro user kind'
    have hcallback := hs.callback user kind'
    cases kind' <;> exact hcallback

theorem rightClient_step {s s' : WrapperState δ φ υ α} {ev : CallbackEvent δ φ υ α}
    (hs : s.Globals) (hright : s.RightClient) (h : s.step ev = some s') :
    s'.RightClient ↔ s.SameClient ev := by
  cases ev with
  | setCallbacks device client =>
    cases h
    exact iff_of_true hright trivial
  | fire device kind args =>
    obtain ⟨client, last, hclient, hlast, rfl⟩ := fire_cases hs h
    constructor
    · intro hright' c hc l hl
      cases hclient.symm.trans hc
      cases hlast.symm.trans hl
      obtain ⟨hfunction, huser⟩ := hright' _ List.mem_cons_self
      exact ⟨hfunction, Option.some.inj huser⟩
    · intro hsame i hi
      obtain ⟨hcallback, huser⟩ := hsame client hclient last hlast
      rcases List.mem_cons.mp hi with rfl | hi
      · exact ⟨hcallback, congrArg some huser⟩
      · exact hright i hi

/-- In every run, all callbacks reach the clients of their devices exactly when each is fired while
the last client of any device has the same function and the same cookie. -/
theorem rightClient_iff (es : List (CallbackEvent δ φ υ α)) :
    Always RightClient step (init : WrapperState δ φ υ α) es ↔ AllMeet SameClient step init es := by
  refine always_iff_allMeet (fun s => s.Globals ∧ s.RightClient) ?_ ?_ ⟨globals_init, ?_⟩
  · intro s ev s' ⟨hs, hright⟩ hsame h
    exact ⟨hs.step h, (rightClient_step hs hright h).mpr hsame⟩
  · intro s ev s' ⟨hs, hright⟩ h
    exact rightClient_step hs hright h
  · intro i hi
    cases hi

/-- With two open devices, the first one's frames go to the second one's client. -/
theorem second_client_called : ¬ ∀ es : List (CallbackEvent Nat Nat Nat Nat),
    Always RightClient step (init : WrapperState Nat Nat Nat Nat) es := by
  intro h
  have hrun := h [.setCallbacks 0 ⟨1, 2, 3, 4, 10⟩, .setCallbacks 1 ⟨5, 6, 7, 8, 20⟩,
    .fire 0 .data 100]
  have hfired : RightClient _ := (((hrun _ rfl).2 _ rfl).2 _ rfl).1
  obtain ⟨hfunction, _⟩ := hfired _ (List.mem_singleton.mpr rfl)
  revert hfunction
  decide

end WrapperState
end Camera
end Huashan
