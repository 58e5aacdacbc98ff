import Huashan.Hex
import Huashan.Run

/-!
# Huashan.MacAddr.ReadMac

`macaddrsetup` copies addresses from partitions of the TA (trim area) to files. `ta_opened` stands
for the partition that is open; `libta` itself is modelled by the one partition it has open.

`sound_iff`: the handle is right after every call, and the partition that is read and closed is the
open one, exactly when no call gives up opening a partition while another one was open before it,
and every partition that is opened has an id of 8 bits.
-/

namespace Huashan
namespace MacAddr

def typeMac : UInt32 := 6
def typeSerial : UInt32 := 10

/-- The arguments of `read_mac`. -/
structure Call where
  taId : UInt32
  valAddr : Int32
  valFile : String
  valSize : UInt32

/-- What the calls of one `read_mac` return. -/
structure Outcomes where
  /-- Of each attempt to open the partition. -/
  taOpen : Nat → Int32
  fopen : Bool
  /-- What is in `size` after `ta_getsize`. -/
  size : UInt32
  taRead : Int32
  /-- What is in `buf` after `ta_read`. -/
  buf : Fin 10 → UInt8
  fprintf : Int32
  /-- How much of the line is in the file once it is closed. -/
  written : Nat

inductive Event where
  | readMac (call : Call) (outcomes : Outcomes)
  /-- What `main` does after the last call. -/
  | finish

structure State where
  taOpened : UInt32
  /-- The open partition. -/
  partition : Option UInt8
  files : String → Option (List Char)
  /-- The return value of `main` so far. -/
  err : Int32
  exited : Bool
  /-- For every `ta_getsize` and `ta_read`: the partition that was meant and the open one. -/
  accesses : List (UInt32 × Option UInt8)
  /-- The open partition at the `ta_close` of `main`, once that was called. -/
  finalClose : Option (Option UInt8)

/-- `%02x` of an unsigned `char`. -/
def hexByte (b : UInt8) : String := formatHex 2 b.toNat

/-- What is printed for a size, and the return value of `fprintf` that is taken for success. -/
def outputLine (valSize : UInt32) (buf : Fin 10 → UInt8) : Option (List Char × Int32) :=
  if valSize = typeMac then
    some ((":".intercalate [hexByte (buf 5), hexByte (buf 4), hexByte (buf 3), hexByte (buf 2),
      hexByte (buf 1), hexByte (buf 0)] ++ "\n").toList, 18)
  else if valSize = typeSerial then
    some ((hexByte (buf 0) ++ hexByte (buf 1) ++ hexByte (buf 2) ++ hexByte (buf 3) ++ "\n").toList,
      9)
  else none

namespace State

/-- The state in which `main` starts; `files` is what was there before. -/
def init (files : String → Option (List Char)) : State where
  taOpened := 0
  partition := none
  files := files
  err := 0
  exited := false
  accesses := []
  finalClose := none

def taOpen (s : State) (p : UInt8) (ret : Int32) : State :=
  if ret = 0 then { s with partition := some p } else s

def taClose (s : State) : State := { s with partition := none }

/-- A `ta_getsize` or `ta_read`. -/
def access (s : State) (taId : UInt32) : State :=
  { s with accesses := (taId, s.partition) :: s.accesses }

def write (s : State) (valFile : String) (content : List Char) : State :=
  { s with files := Function.update s.files valFile (some content) }

/-- The loop around `ta_open`; `left` is `101 - i`, so that `i > 100` is `left = 0`. -/
def tryOpen (taId : UInt32) (ret : Nat → Int32) (left : Nat) (s : State) : State × Bool :=
  let s₁ := s.taOpen taId.toUInt8 (ret (101 - left))
  if ret (101 - left) = 0 then ({ s₁ with taOpened := taId }, true)
  else
    match left with
    | 0 => (s₁, false)
    | left + 1 => tryOpen taId ret left s₁.taClose

/-- The first part of `read_mac`, and whether it goes on. -/
def openPartition (s : State) (taId : UInt32) (ret : Nat → Int32) : State × Bool :=
  if taId ≠ s.taOpened then tryOpen taId ret 101 (if s.taOpened ≠ 0 then s.taClose else s)
  else (s, true)

/-- The rest of `read_mac`. -/
def copyValue (s : State) (c : Call) (o : Outcomes) : State × Int32 :=
  if !o.fopen then (s, 1)
  else
    let s₁ := (s.write c.valFile []).access c.taId
    if o.size ≠ c.valSize then (s₁, 1)
    else
      let s₂ := s₁.access c.taId
      if o.taRead ≠ 0 then (s₂, 1)
      else
        match outputLine c.valSize o.buf with
        | none => (s₂, 0)
        | some (line, length) =>
          (s₂.write c.valFile (line.take o.written), if o.fprintf ≠ length then 1 else 0)

def readMac (s : State) (c : Call) (o : Outcomes) : State × Int32 :=
  let (s₁, opened) := s.openPartition c.taId o.taOpen
  if opened then s₁.copyValue c o else (s₁, 1)

def finish (s : State) : State :=
  if s.taOpened ≠ 0 then { s.taClose with exited := true, finalClose := some s.partition }
  else { s with exited := true }

def step (s : State) : Event → Option State
  | .readMac c o =>
    if s.exited = false ∧ c.taId ≠ 0 then
      let (s', ret) := s.readMac c o
      some { s' with err := s.err ||| ret }
    else none
  | .finish => if s.exited = false then some s.finish else none

/-- `ta_opened` names the open partition. -/
def Tracked (s : State) : Prop :=
  (s.taOpened ≠ 0 ↔ s.partition ≠ none) ∧ ∀ p, s.partition = some p → s.taOpened = p.toUInt32

/-- The handle is right, and so was every use of a partition. -/
structure Sound (s : State) : Prop where
  tracked : s.exited = false → s.Tracked
  accessed : ∀ a ∈ s.accesses, ∃ p, a.2 = some p ∧ a.1 = p.toUInt32
  closed : ∀ p, s.finalClose = some p → p ≠ none

end State

/-- All attempts to open the partition fail. -/
def Outcomes.GivesUp (o : Outcomes) : Prop := ∀ i ≤ 101, o.taOpen i ≠ 0

namespace State

/-- The partition is open already, or it is opened and its id is that of `ta_open`, or it cannot be
opened and none was open before. -/
def Keeps (s : State) : Event → Prop
  | .readMac c o =>
    c.taId = s.taOpened ∨ (o.GivesUp ∧ s.taOpened = 0) ∨ (¬o.GivesUp ∧ c.taId.toNat < 256)
  | .finish => True

/-! ## Opening a partition -/

theorem taClose_of_none {s : State} (h : s.partition = none) : s.taClose = s := by
  unfold taClose
  rw [← h]

theorem tryOpen_cases (taId : UInt32) (ret : Nat → Int32) {s : State} (hs : s.partition = none) :
    ∀ left ≤ 101,
      ((∃ i ≤ 101, 101 - left ≤ i ∧ ret i = 0) ∧ tryOpen taId ret left s =
        ({ s with taOpened := taId, partition := some taId.toUInt8 }, true)) ∨
      ((∀ i ≤ 101, 101 - left ≤ i → ret i ≠ 0) ∧ tryOpen taId ret left s = (s, false)) := by
  intro left
  induction left with
  | zero =>
    intro _
    unfold tryOpen taOpen
    by_cases hret : ret 101 = 0
    · exact .inl ⟨⟨101, le_rfl, le_rfl, hret⟩, by simp [hret]⟩
    · refine .inr ⟨fun i hi hi' => ?_, by simp [hret]⟩
      rw [Nat.le_antisymm hi hi']
      exact hret
  | succ left ih =>
    intro hleft
    unfold tryOpen taOpen
    by_cases hret : ret (101 - (left + 1)) = 0
    · refine .inl ⟨⟨_, Nat.sub_le _ _, le_rfl, hret⟩, ?_⟩
      simp only [hret, if_true]
    · simp only [hret, if_false, taClose_of_none hs]
      obtain ⟨⟨i, hi, hi', hok⟩, htry⟩ | ⟨hfail, htry⟩ := ih (by omega)
      · exact .inl ⟨⟨i, hi, by omega, hok⟩, htry⟩
      · refine .inr ⟨fun i hi hi' => ?_, htry⟩
        by_cases hfirst : i = 101 - (left + 1)
        · rw [hfirst]
          exact hret
        · exact hfail i hi (by omega)

/-- All that the first part of `read_mac` can do to a handle that is right. -/
theorem openPartition_cases {s : State} (hs : s.Tracked) (taId : UInt32) (o : Outcomes) :
    (taId = s.taOpened ∧ s.openPartition taId o.taOpen = (s, true)) ∨
    (taId ≠ s.taOpened ∧ ¬o.GivesUp ∧ s.openPartition taId o.taOpen =
      ({ s with taOpened := taId, partition := some taId.toUInt8 }, true)) ∨
    (taId ≠ s.taOpened ∧ o.GivesUp ∧
      s.openPartition taId o.taOpen = ({ s with partition := none }, false)) := by
  by_cases hid : taId = s.taOpened
  · exact .inl ⟨hid, if_neg (not_not.mpr hid)⟩
  · have hclosed : (if s.taOpened ≠ 0 then s.taClose else s) = { s with partition := none } := by
      split
      · rfl
      · next hzero =>
        have hnone : s.partition = none := not_not.mp (mt hs.1.mpr hzero)
        exact (taClose_of_none hnone).symm
    have hopen : s.openPartition taId o.taOpen =
        tryOpen taId o.taOpen 101 { s with partition := none } := by
      rw [openPartition, if_pos hid, hclosed]
    rw [hopen]
    obtain ⟨⟨i, hi, _, hok⟩, htry⟩ | ⟨hfail, htry⟩ :=
      tryOpen_cases taId o.taOpen (s := { s with partition := none }) rfl 101 le_rfl
    · exact .inr (.inl ⟨hid, fun hgives => hgives i hi hok, htry⟩)
    · exact .inr (.inr ⟨hid, fun i hi => hfail i hi (by omega), htry⟩)

theorem toUInt8_toUInt32_eq_iff (taId : UInt32) :
    taId = taId.toUInt8.toUInt32 ↔ taId.toNat < 256 := by
  rw [← UInt32.toNat_inj, UInt8.toNat_toUInt32, UInt32.toNat_toUInt8]
  omega

/-! ## One call -/

/-- What the rest of `read_mac` leaves alone, and which partitions it uses. -/
structure Copied (s t : State) (taId : UInt32) : Prop where
  taOpened : t.taOpened = s.taOpened
  partition : t.partition = s.partition
  exited : t.exited = s.exited
  finalClose : t.finalClose = s.finalClose
  accesses : ∀ a ∈ t.accesses, a = (taId, s.partition) ∨ a ∈ s.accesses

theorem copied_copyValue (s : State) (c : Call) (o : Outcomes) :
    s.Copied (s.copyValue c o).1 c.taId := by
  have honce : ∀ t : State, t.accesses = (c.taId, s.partition) :: s.accesses →
      ∀ a ∈ t.accesses, a = (c.taId, s.partition) ∨ a ∈ s.accesses := by
    intro t ht a ha
    rw [ht] at ha
    exact List.mem_cons.mp ha
  have htwice : ∀ t : State,
      t.accesses = (c.taId, s.partition) :: (c.taId, s.partition) :: s.accesses →
      ∀ a ∈ t.accesses, a = (c.taId, s.partition) ∨ a ∈ s.accesses := by
    intro t ht a ha
    rw [ht] at ha
    obtain ha | ha := List.mem_cons.mp ha
    · exact .inl ha
    · exact List.mem_cons.mp ha
  unfold copyValue
  split
  · exact ⟨rfl, rfl, rfl, rfl, fun _ ha => .inr ha⟩
  split
  · exact ⟨rfl, rfl, rfl, rfl, honce _ rfl⟩
  split
  · exact ⟨rfl, rfl, rfl, rfl, htwice _ rfl⟩
  split
  · exact ⟨rfl, rfl, rfl, rfl, htwice _ rfl⟩
  · exact ⟨rfl, rfl, rfl, rfl, htwice _ rfl⟩

theorem tracked_opened {s : State} {taId : UInt32} (hid : taId ≠ 0) :
    Tracked { s with taOpened := taId, partition := some taId.toUInt8 } ↔ taId.toNat < 256 := by
  rw [← toUInt8_toUInt32_eq_iff]
  constructor
  · intro h
    exact h.2 _ rfl
  · intro h
    refine ⟨iff_of_true hid (by simp), fun p hp => ?_⟩
    cases hp
    exact h

theorem tracked_closed {s : State} : Tracked { s with partition := none } ↔ s.taOpened = 0 := by
  constructor
  · intro h
    exact not_not.mp fun hne => h.1.mp hne rfl
  · intro h
    refine ⟨iff_of_false (not_not.mpr h) (not_not.mpr rfl), fun p hp => ?_⟩
    cases hp

/-- A call that goes on keeps the handle right if it was right on opening. -/
theorem Copied.sound_iff_tracked {s t : State} {taId : UInt32} (h : s.Copied t taId)
    (hid : taId = s.taOpened) (hzero : taId ≠ 0) (hrunning : s.exited = false)
    (haccessed : ∀ a ∈ s.accesses, ∃ p, a.2 = some p ∧ a.1 = p.toUInt32)
    (hclosed : ∀ p, s.finalClose = some p → p ≠ none) : t.Sound ↔ s.Tracked := by
  have htracked : t.Tracked ↔ s.Tracked := by
    unfold Tracked
    rw [h.taOpened, h.partition]
  constructor
  · intro ht
    exact htracked.mp (ht.tracked (h.exited.trans hrunning))
  · intro hs
    refine ⟨fun _ => htracked.mpr hs, fun a ha => ?_, fun p hp => hclosed p (h.finalClose ▸ hp)⟩
    obtain rfl | ha := h.accesses a ha
    · obtain ⟨p, hp⟩ := Option.ne_none_iff_exists'.mp (hs.1.mp (hid ▸ hzero))
      exact ⟨p, hp, hid.trans (hs.2 p hp)⟩
    · exact haccessed a ha

theorem sound_readMac_iff {s : State} (hs : s.Sound) (hrunning : s.exited = false) {c : Call}
    (hid : c.taId ≠ 0) (o : Outcomes) : (s.readMac c o).1.Sound ↔ s.Keeps (.readMac c o) := by
  have htracked := hs.tracked hrunning
  unfold readMac Keeps
  obtain ⟨hsame, hopen⟩ | ⟨hne, hgives, hopen⟩ | ⟨hne, hgives, hopen⟩ :=
    openPartition_cases htracked c.taId o
  · rw [hopen]
    refine iff_of_true ?_ (.inl hsame)
    have hsound := (copied_copyValue s c o).sound_iff_tracked hsame hid hrunning hs.accessed
      hs.closed
    exact hsound.mpr htracked
  · rw [hopen]
    have hcopied := copied_copyValue
      { s with taOpened := c.taId, partition := some c.taId.toUInt8 } c o
    have hsound := hcopied.sound_iff_tracked rfl hid hrunning hs.accessed hs.closed
    rw [tracked_opened hid] at hsound
    refine hsound.trans ⟨fun h => .inr (.inr ⟨hgives, h⟩), fun h => ?_⟩
    obtain h | h | h := h
    · exact absurd h hne
    · exact absurd h.1 hgives
    · exact h.2
  · rw [hopen]
    constructor
    · intro h
      exact .inr (.inl ⟨hgives, tracked_closed.mp (h.tracked hrunning)⟩)
    · intro h
      obtain h | h | h := h
      · exact absurd h hne
      · exact ⟨fun _ => tracked_closed.mpr h.2, hs.accessed, hs.closed⟩
      · exact absurd hgives h.1

theorem sound_finish {s : State} (hs : s.Sound) (hrunning : s.exited = false) : s.finish.Sound := by
  have htracked := hs.tracked hrunning
  unfold finish
  split
  · next hopen =>
    refine ⟨fun h => (by cases h), hs.accessed, fun p hp => ?_⟩
    cases hp
    exact htracked.1.mp hopen
  · exact ⟨fun h => (by cases h), hs.accessed, hs.closed⟩

/-! ## Whole runs -/

theorem sound_step_iff {s s' : State} {ev : Event} (hs : s.Sound) (h : s.step ev = some s') :
    s'.Sound ↔ s.Keeps ev := by
  cases ev with
  | readMac c o =>
    obtain ⟨⟨hrunning, hid⟩, h⟩ := Option.ite_none_right_eq_some.mp h
    cases h
    refine Iff.trans ?_ (sound_readMac_iff hs hrunning hid o)
    exact ⟨fun h => ⟨h.tracked, h.accessed, h.closed⟩, fun h => ⟨h.tracked, h.accessed, h.closed⟩⟩
  | finish =>
    obtain ⟨hrunning, h⟩ := Option.ite_none_right_eq_some.mp h
    cases h
    exact iff_of_true (sound_finish hs hrunning) trivial

theorem sound_init (files : String → Option (List Char)) : (init files).Sound := by
  refine ⟨fun _ => ⟨?_, ?_⟩, ?_, ?_⟩
  · exact iff_of_false (not_not.mpr rfl) (not_not.mpr rfl)
  · intro p hp
    cases hp
  · intro a ha
    cases ha
  · intro p hp
    cases hp

/-- In every run, the handle and the uses of the partitions are right exactly when each call keeps
the handle. -/
theorem sound_iff (files : String → Option (List Char)) (es : List Event) :
    Always Sound step (init files) es ↔ AllMeet Keeps step (init files) es :=
  always_iff_allMeet Sound (fun _ _ _ hs hev h => (sound_step_iff hs h).mpr hev)
    (fun _ _ _ hs h => sound_step_iff hs h) (sound_init files)

end State

/-! ## `main` -/

def wlanSerial : Call :=
  ⟨2, 4900, "/sys/devices/platform/wcnss_wlan.0/serial_number", typeSerial⟩
def wlanMac : Call := ⟨2, 2560, "/sys/devices/platform/wcnss_wlan.0/wcnss_mac_addr", typeMac⟩
def btMac : Call := ⟨1, 447, "/data/misc/bluetooth/bdaddr", typeMac⟩

/-- What `main` does, with the outcomes of its three calls. -/
def main (serial mac bluetooth : Outcomes) : List Event :=
  [.readMac wlanSerial serial, .readMac wlanMac mac, .readMac btMac bluetooth, .finish]

/-- All attempts to open the partition return `ret`, and the output file cannot be opened. -/
def Outcomes.unwritable (ret : Int32) : Outcomes := ⟨fun _ => ret, false, 0, 0, fun _ => 0, 0, 0⟩

/-- The partition of the Bluetooth address cannot be opened: the handle still names the partition of
the WLAN, which is closed. -/
theorem State.stale_handle :
    ¬∀ (files : String → Option (List Char)) (es : List Event),
      Always State.Sound State.step (State.init files) es := by
  intro h
  have hrun := h (fun _ => none) (main (.unwritable 0) (.unwritable 0) (.unwritable (-1)))
  have hlast : State.Sound _ := ((((hrun _ rfl).2 _ rfl).2 _ rfl).2 _ rfl).1
  exact hlast.closed none (by decide) rfl

end MacAddr
end Huashan
