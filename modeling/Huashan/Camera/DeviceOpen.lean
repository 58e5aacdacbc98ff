import Huashan.Numerals

/-!
# Huashan.Camera.DeviceOpen

`camera_device_open`. The state is what it can leave behind: the vendor devices that are open and
the blocks on the heap. What the vendor, the sensor service and `malloc` answer are parameters.

`opensCleanly_iff` says which outcomes leave nothing behind when the call fails, and a camera that
exists when it does not.
-/

namespace Huashan
namespace Camera

def einval : Int32 := 22
def enomem : Int32 := 12
def noInit : Int32 := -19

/-- A return value of a call that failed. -/
abbrev Failure : Type := { rv : Int32 // rv ≠ 0 }

structure WrapperCameraDevice (δ : Type*) where
  cameraReleased : Bool
  id : Int32
  vendor : δ

/-- The blocks that `camera_device` and `camera_ops` point to. -/
inductive Block where
  | cameraDevice
  | cameraOps
  deriving DecidableEq, Repr

/-- `μ` are the vendor's modules and `δ` its devices. -/
structure OpenState (μ δ : Type*) where
  gVendorModule : Option μ
  /-- The devices that the vendor has opened and not closed. -/
  opened : List δ
  /-- The blocks that are allocated. -/
  heap : List Block

/-- What the calls of `camera_device_open` answer. -/
structure OpenOutcomes (μ δ : Type*) where
  hwGetModuleByClass : Except Failure μ
  canTalkToSensormanager : Bool
  getNumberOfCameras : μ → Int32
  mallocCameraDevice : Bool
  vendorOpen : μ → List UInt8 → Except Failure δ
  mallocCameraOps : Bool

/-- There is no such camera by the wrapper's check, no memory for it, or the vendor does not open
it. -/
def OpenOutcomes.Refuses {μ δ : Type*} (o : OpenOutcomes μ δ) (m : μ) (name : List UInt8) : Prop :=
  atoi name > o.getNumberOfCameras m ∨ o.mallocCameraDevice = false ∨
    ∃ rv, o.vendorOpen m name = .error rv

structure OpenResult (μ δ : Type*) where
  rv : Int32
  /-- `*device`. -/
  device : Option (WrapperCameraDevice δ)
  state : OpenState μ δ

namespace OpenState

variable {μ δ : Type*}

def malloc (s : OpenState μ δ) (block : Block) : OpenState μ δ :=
  { s with heap := block :: s.heap }

def free (s : OpenState μ δ) (block : Block) : OpenState μ δ :=
  { s with heap := s.heap.erase block }

/-- The module that `gVendorModule` points to afterwards, when the return value is 0. -/
def checkVendorModule (s : OpenState μ δ) (o : OpenOutcomes μ δ) :
    OpenState μ δ × Except Failure μ :=
  match s.gVendorModule with
  | some vendorModule => (s, .ok vendorModule)
  | none =>
    match o.hwGetModuleByClass with
    | .error rv => (s, .error rv)
    | .ok vendorModule => ({ s with gVendorModule := some vendorModule }, .ok vendorModule)

/-- The label `fail`, with the pointers that are not `NULL` there. -/
def fail (s : OpenState μ δ) (rv : Int32) (pointers : List Block) : OpenResult μ δ where
  rv := rv
  device := none
  state := pointers.foldl free s

/-- The part behind the checks of the module and of the sensor service. -/
def openCamera (s : OpenState μ δ) (o : OpenOutcomes μ δ) (vendorModule : μ)
    (name : List UInt8) : OpenResult μ δ :=
  let cameraid := atoi name
  let numCameras := o.getNumberOfCameras vendorModule
  if cameraid > numCameras then s.fail (-einval) []
  else if !o.mallocCameraDevice then s.fail (-enomem) []
  else
    let s := s.malloc .cameraDevice
    match o.vendorOpen vendorModule name with
    | .error rv => s.fail rv [.cameraDevice]
    | .ok vendor =>
      let s := { s with opened := vendor :: s.opened }
      if !o.mallocCameraOps then s.fail (-enomem) [.cameraDevice]
      else
        let s := s.malloc .cameraOps
        ⟨0, some { cameraReleased := false, id := cameraid, vendor := vendor }, s⟩

def cameraDeviceOpen (s : OpenState μ δ) (o : OpenOutcomes μ δ) (name : Option (List UInt8))
    (device : Option (WrapperCameraDevice δ)) : OpenResult μ δ :=
  match name with
  | none => ⟨-einval, device, s⟩
  | some name =>
    match s.checkVendorModule o with
    | (s, .error _) => ⟨-einval, device, s⟩
    | (s, .ok vendorModule) =>
      if !o.canTalkToSensormanager then ⟨noInit, device, s⟩
      else s.openCamera o vendorModule name

/-- A failed open leaves no device behind, neither for its caller nor at the vendor, and one that
does not fail is for a camera that exists. -/
def OpensCleanly (s : OpenState μ δ) (o : OpenOutcomes μ δ) (name : Option (List UInt8))
    (device : Option (WrapperCameraDevice δ)) : Prop :=
  let r := s.cameraDeviceOpen o name device
  (r.rv ≠ 0 → r.device = none ∧ r.state.opened = s.opened) ∧
    (r.rv = 0 → ∃ n m, name = some n ∧ r.state.gVendorModule = some m ∧
      0 ≤ atoi n ∧ atoi n < o.getNumberOfCameras m)

/-- The vendor's module, if there is one or it can be found. -/
def vendorModule (s : OpenState μ δ) (o : OpenOutcomes μ δ) : Option μ :=
  s.gVendorModule.or o.hwGetModuleByClass.toOption

/-- The camera is refused, or it exists and there is memory for its functions; and with an early
return, `*device` was `NULL` before. -/
def CleansUp (s : OpenState μ δ) (o : OpenOutcomes μ δ) (name : Option (List UInt8))
    (device : Option (WrapperCameraDevice δ)) : Prop :=
  match name, s.vendorModule o with
  | some name, some m =>
    if o.canTalkToSensormanager then
      o.Refuses m name ∨
        (o.mallocCameraOps = true ∧ 0 ≤ atoi name ∧ atoi name < o.getNumberOfCameras m)
    else device = none
  | _, _ => device = none

variable {s : OpenState μ δ} {o : OpenOutcomes μ δ} {device : Option (WrapperCameraDevice δ)}

theorem checkVendorModule_some {m : μ} (h : s.vendorModule o = some m) :
    s.checkVendorModule o = ({ s with gVendorModule := some m }, .ok m) := by
  unfold vendorModule at h
  unfold checkVendorModule
  cases hmodule : s.gVendorModule with
  | some m' =>
    rw [hmodule, Option.some_or] at h
    cases h
    simp [← hmodule]
  | none =>
    rw [hmodule, Option.none_or] at h
    cases hget : o.hwGetModuleByClass with
    | error rv =>
      rw [hget] at h
      cases h
    | ok m' =>
      rw [hget] at h
      cases h
      rfl

theorem checkVendorModule_none (h : s.vendorModule o = none) :
    ∃ rv, s.checkVendorModule o = (s, .error rv) := by
  unfold vendorModule at h
  unfold checkVendorModule
  cases hmodule : s.gVendorModule with
  | some m =>
    rw [hmodule] at h
    cases h
  | none =>
    rw [hmodule] at h
    cases hget : o.hwGetModuleByClass with
    | error rv => exact ⟨rv, rfl⟩
    | ok m =>
      rw [hget] at h
      cases h

/-- All that the part behind the checks can do. -/
theorem openCamera_cases (s : OpenState μ δ) (o : OpenOutcomes μ δ) (m : μ) (name : List UInt8) :
    (o.Refuses m name ∧ ∃ rv, rv ≠ 0 ∧ s.openCamera o m name = ⟨rv, none, s⟩) ∨
    (¬o.Refuses m name ∧ ∃ vendor,
      (o.mallocCameraOps = false ∧ s.openCamera o m name =
        ⟨-enomem, none, { s with opened := vendor :: s.opened }⟩) ∨
      (o.mallocCameraOps = true ∧ s.openCamera o m name =
        ⟨0, some ⟨false, atoi name, vendor⟩, { s with
          opened := vendor :: s.opened
          heap := .cameraOps :: .cameraDevice :: s.heap }⟩)) := by
  unfold openCamera
  by_cases hid : atoi name > o.getNumberOfCameras m
  · refine .inl ⟨.inl hid, -einval, by decide, ?_⟩
    simp [hid, fail]
  cases hdevice : o.mallocCameraDevice with
  | false =>
    refine .inl ⟨.inr (.inl hdevice), -enomem, by decide, ?_⟩
    simp [hid, fail]
  | true =>
    cases hopen : o.vendorOpen m name with
    | error rv =>
      refine .inl ⟨.inr (.inr ⟨rv, hopen⟩), rv, rv.property, ?_⟩
      simp [hid, fail, free, malloc]
    | ok vendor =>
      refine .inr ⟨by simp [OpenOutcomes.Refuses, hid, hdevice, hopen], vendor, ?_⟩
      cases o.mallocCameraOps with
      | false => exact .inl ⟨rfl, by simp [hid, fail, free, malloc]⟩
      | true => exact .inr ⟨rfl, by simp [hid, malloc]⟩

/-- All that a call can do: it returns early, or it goes on with the vendor's module. -/
theorem cameraDeviceOpen_cases (s : OpenState μ δ) (o : OpenOutcomes μ δ)
    (name : Option (List UInt8)) (device : Option (WrapperCameraDevice δ)) :
    ((name = none ∨ s.vendorModule o = none ∨ o.canTalkToSensormanager = false) ∧
      ∃ rv s', rv ≠ 0 ∧ s'.opened = s.opened ∧ s'.heap = s.heap ∧
        s.cameraDeviceOpen o name device = ⟨rv, device, s'⟩) ∨
    ∃ n m, name = some n ∧ s.vendorModule o = some m ∧ o.canTalkToSensormanager = true ∧
      s.cameraDeviceOpen o name device =
        openCamera { s with gVendorModule := some m } o m n := by
  cases name with
  | none => exact .inl ⟨.inl rfl, -einval, s, by decide, rfl, rfl, rfl⟩
  | some n =>
    cases hm : s.vendorModule o with
    | none =>
      obtain ⟨rv, hcheck⟩ := checkVendorModule_none hm
      refine .inl ⟨.inr (.inl rfl), -einval, s, by decide, rfl, rfl, ?_⟩
      simp [cameraDeviceOpen, hcheck]
    | some m =>
      have hcheck := checkVendorModule_some hm
      cases hsensor : o.canTalkToSensormanager with
      | false =>
        refine .inl ⟨.inr (.inr rfl), noInit, { s with gVendorModule := some m }, by decide, rfl,
          rfl, ?_⟩
        simp [cameraDeviceOpen, hcheck, hsensor]
      | true =>
        refine .inr ⟨n, m, rfl, rfl, rfl, ?_⟩
        simp [cameraDeviceOpen, hcheck, hsensor]

/-- A call of `camera_device_open` does what it should exactly when it ends in one of the ways in
which it cleans up. -/
theorem opensCleanly_iff (s : OpenState μ δ) (o : OpenOutcomes μ δ) (name : Option (List UInt8))
    (device : Option (WrapperCameraDevice δ)) :
    s.OpensCleanly o name device ↔ s.CleansUp o name device := by
  obtain ⟨hearly, rv, s', hrv, hopened, _, h⟩ | ⟨n, m, rfl, hm, hsensor, h⟩ :=
    cameraDeviceOpen_cases s o name device
  · have hcleans : s.CleansUp o name device ↔ device = none := by
      unfold CleansUp
      obtain rfl | hm | hsensor := hearly
      · rfl
      · rw [hm]
        cases name <;> rfl
      · cases name with
        | none => rfl
        | some n => cases s.vendorModule o <;> simp [hsensor]
    rw [hcleans]
    simp [OpensCleanly, h, hrv, hopened]
  · have hcleans : s.CleansUp o (some n) device ↔ o.Refuses m n ∨
        (o.mallocCameraOps = true ∧ 0 ≤ atoi n ∧ atoi n < o.getNumberOfCameras m) := by
      simp [CleansUp, hm, hsensor]
    rw [hcleans]
    obtain ⟨hrefuses, rv, hrv, hopen⟩ | ⟨hrefuses, vendor, ⟨hops, hopen⟩ | ⟨hops, hopen⟩⟩ :=
      openCamera_cases { s with gVendorModule := some m } o m n
    · simp [OpensCleanly, h, hopen, hrv, hrefuses]
    · -- The vendor's device stays open.
      have henomem : -enomem ≠ 0 := by decide
      simp [OpensCleanly, h, hopen, hops, hrefuses, henomem]
    · simp [OpensCleanly, h, hopen, hops, hrefuses]

/-- There is no memory for the camera's functions: the vendor's device stays open. -/
theorem vendor_device_left_open : ¬∀ (s : OpenState Unit Nat) (o : OpenOutcomes Unit Nat)
    (name : Option (List UInt8)) (device : Option (WrapperCameraDevice Nat)),
      s.OpensCleanly o name device := by
  intro h
  have hfailed := (h ⟨none, [], []⟩ ⟨.ok (), true, fun _ => 2, true, fun _ _ => .ok 7, false⟩
    (some [48]) none).1 (by decide)
  exact absurd hfailed.2 (by decide)

end OpenState

end Camera
end Huashan
