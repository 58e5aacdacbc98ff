import Huashan.Graphics.Process

/-!
# Huashan.Graphics.Ownership

Who frees the handles of graphic buffers. In every run each handle has one owner at most, which can
free it; a handle is lost exactly when gralloc refuses to free it, when it refuses one that has been
received, and when a buffer that owns one receives a size that is too large.
-/

namespace Huashan
namespace Graphics

variable {ν : Type}

/-- The buffer is to free the handle. -/
def GraphicBuffer.Owns (b : GraphicBuffer ν) (h : Nat) : Prop :=
  b.handle = some h ∧ b.mOwner ≠ .ownNone

/-- The buffer is to have gralloc free the handle. -/
def GraphicBuffer.OwnsData (b : GraphicBuffer ν) (h : Nat) : Prop :=
  b.handle = some h ∧ b.mOwner = .ownData

namespace Process

/-- Such an owner can free the handle. -/
def Backs (p : Process ν) (h : Nat) : Owner → Prop
  | .ownNone => True
  | .ownHandle =>
    (p.handles h).isSome = true ∧ p.allocated h = false ∧ p.registered h = true
  | .ownData => (p.handles h).isSome = true ∧ p.allocated h = true

structure Sound (p : Process ν) : Prop where
  backed : ∀ v b h, p.buffers v = some b → b.handle = some h → p.Backs h b.mOwner
  callers_backed : ∀ h, p.callers h = true → p.Backs h .ownHandle
  apart : ∀ v b h, p.buffers v = some b → b.Owns h → p.callers h = false
  once : ∀ v u b c h, p.buffers v = some b → p.buffers u = some c → b.Owns h → c.Owns h → v = u
  live : ∀ h, p.allocated h = true → (p.handles h).isSome = true
  fresh : ∀ h, (p.handles h).isSome = true → h < p.next
  records : p.sAllocList = p.allocated

/-- Nobody is to free the handle. -/
def Lost (p : Process ν) (h : Nat) : Prop :=
  (p.handles h).isSome = true ∧ p.callers h = false ∧
    ∀ v b, p.buffers v = some b → ¬ b.Owns h

theorem sound_start : (start : Process ν).Sound := by
  constructor <;> simp [start]

/-! ## What the owners know -/

variable {p q : Process ν} {v : ν} {b : GraphicBuffer ν} {h : Nat}

theorem Sound.owned_live (hp : p.Sound) (hv : p.buffers v = some b) (hown : b.Owns h) :
    (p.handles h).isSome = true := by
  have hback := hp.backed v b h hv hown.1
  cases howner : b.mOwner with
  | ownNone => exact absurd howner hown.2
  | ownHandle => rw [howner] at hback; exact hback.1
  | ownData => rw [howner] at hback; exact hback.1

theorem Sound.next_unused (hp : p.Sound) : p.handles p.next = none := by
  cases hnext : p.handles p.next with
  | none => rfl
  | some _ => exact absurd (hp.fresh p.next (by simp [hnext])) (lt_irrefl _)

theorem Sound.next_not_allocated (hp : p.Sound) : p.allocated p.next = false := by
  by_contra hne
  have hlive := hp.live p.next (by simpa using hne)
  simp [hp.next_unused] at hlive

theorem Sound.next_not_callers (hp : p.Sound) : p.callers p.next = false := by
  by_contra hne
  have hback := hp.callers_backed p.next (by simpa using hne)
  simp [Backs, hp.next_unused] at hback

theorem Sound.next_not_owned (hp : p.Sound) (hv : p.buffers v = some b) : ¬ b.Owns p.next := by
  intro hown
  have hlive := hp.owned_live hv hown
  simp [hp.next_unused] at hlive

theorem Backs.congr {owner : Owner} (hback : p.Backs h owner) (hhandles : q.handles h = p.handles h)
    (hallocated : q.allocated h = p.allocated h) (hregistered : q.registered h = p.registered h) :
    q.Backs h owner := by
  cases owner with
  | ownNone => trivial
  | ownHandle => simpa only [Backs, hhandles, hallocated, hregistered] using hback
  | ownData => simpa only [Backs, hhandles, hallocated] using hback

/-! ## New handles -/

/-- The process with a new handle, which gralloc has allocated or not. -/
def add (p : Process ν) (n : NativeHandle) (allocated : Bool) : Process ν :=
  { p with
    handles := Function.update p.handles p.next (some n)
    allocated := Function.update p.allocated p.next allocated
    sAllocList := Function.update p.sAllocList p.next allocated
    next := p.next + 1 }

theorem Sound.nativeHandleCreate_eq_add (hp : p.Sound) (n : NativeHandle) :
    p.nativeHandleCreate n = p.add n false := by
  have hallocated : Function.update p.allocated p.next false = p.allocated := by
    rw [← hp.next_not_allocated, Function.update_eq_self]
  simp only [nativeHandleCreate, add, hp.records, hallocated]

theorem Sound.add (hp : p.Sound) (n : NativeHandle) (allocated : Bool) :
    (p.add n allocated).Sound := by
  have hframe : ∀ k owner, k ≠ p.next → p.Backs k owner → (p.add n allocated).Backs k owner := by
    intro k owner hk hback
    exact hback.congr (by simp [Process.add, hk]) (by simp [Process.add, hk]) rfl
  refine ⟨?_, ?_, hp.apart, hp.once, ?_, ?_, ?_⟩
  · intro v b k hv hk
    by_cases hown : b.mOwner = .ownNone
    · rw [hown]
      trivial
    · refine hframe k _ ?_ (hp.backed v b k hv hk)
      rintro rfl
      exact hp.next_not_owned hv ⟨hk, hown⟩
  · intro k hk
    refine hframe k _ ?_ (hp.callers_backed k hk)
    rintro rfl
    simp [Process.add, hp.next_not_callers] at hk
  · intro k hk
    by_cases hne : k = p.next
    · simp [Process.add, hne]
    · simp only [Process.add, ne_eq, hne, not_false_eq_true, Function.update_of_ne] at hk ⊢
      exact hp.live k hk
  · intro k hk
    by_cases hne : k = p.next
    · simp [Process.add, hne]
    · simp only [Process.add, ne_eq, hne, not_false_eq_true, Function.update_of_ne] at hk ⊢
      exact Nat.lt_succ_of_lt (hp.fresh k hk)
  · simp [Process.add, hp.records]

/-- A new handle is lost until somebody is to free it. -/
theorem Sound.lost_add (hp : p.Sound) {n : NativeHandle} {allocated : Bool} :
    (p.add n allocated).Lost h ↔ p.Lost h ∨ h = p.next := by
  by_cases hne : h = p.next
  · subst hne
    refine iff_of_true ⟨by simp [Process.add], hp.next_not_callers, fun v b hv => ?_⟩ (.inr rfl)
    exact hp.next_not_owned hv
  · simp only [Lost, Process.add, ne_eq, hne, not_false_eq_true, Function.update_of_ne, or_false]

theorem Sound.registerBuffer (hp : p.Sound) (h : Nat) : (p.registerBuffer h).Sound := by
  have hframe : ∀ k owner, p.Backs k owner → (p.registerBuffer h).Backs k owner := by
    intro k owner hback
    cases owner with
    | ownNone => trivial
    | ownHandle =>
      refine ⟨hback.1, hback.2.1, ?_⟩
      by_cases hk : k = h
      · simp [Process.registerBuffer, hk]
      · simpa [Process.registerBuffer, hk] using hback.2.2
    | ownData => exact hback
  exact ⟨fun v b k hv hk => hframe k _ (hp.backed v b k hv hk),
    fun k hk => hframe k _ (hp.callers_backed k hk), hp.apart, hp.once, hp.live, hp.fresh,
    hp.records⟩

theorem lost_registerBuffer {k : Nat} : (p.registerBuffer k).Lost h ↔ p.Lost h := Iff.rfl

/-! ## Lost handles -/

/-- The rest of the process gives a handle away. -/
theorem Sound.give (hp : p.Sound) (h : Nat) :
    Sound { p with callers := Function.update p.callers h false } := by
  refine ⟨hp.backed, fun k hk => ?_, fun v b k hv hown => ?_, hp.once, hp.live, hp.fresh,
    hp.records⟩
  · by_cases hne : k = h
    · simp [hne] at hk
    · exact hp.callers_backed k (by simpa [hne] using hk)
  · by_cases hne : k = h
    · simp [hne]
    · simpa [hne] using hp.apart v b k hv hown

theorem Sound.lost_give (hp : p.Sound) (hcallers : p.callers h = true) {k : Nat} :
    Lost { p with callers := Function.update p.callers h false } k ↔ p.Lost k ∨ k = h := by
  by_cases hne : k = h
  · subst hne
    refine iff_of_true ⟨?_, by simp, fun v b hv hown => ?_⟩ (.inr rfl)
    · exact (hp.callers_backed k hcallers).1
    · rw [hp.apart v b k hv hown] at hcallers
      cases hcallers
  · simp [Lost, hne]

/-- The rest of the process takes a handle that is lost. -/
theorem Sound.take (hp : p.Sound) (hlost : p.Lost h) (hback : p.Backs h .ownHandle) :
    Sound { p with callers := Function.update p.callers h true } := by
  refine ⟨hp.backed, fun k hk => ?_, fun v b k hv hown => ?_, hp.once, hp.live, hp.fresh,
    hp.records⟩
  · by_cases hne : k = h
    · subst hne
      exact hback
    · exact hp.callers_backed k (by simpa [hne] using hk)
  · by_cases hne : k = h
    · subst hne
      exact absurd hown (hlost.2.2 v b hv)
    · simpa [hne] using hp.apart v b k hv hown

theorem lost_take {k : Nat} :
    Lost { p with callers := Function.update p.callers h true } k ↔ p.Lost k ∧ k ≠ h := by
  by_cases hne : k = h <;> simp [Lost, hne]

/-! ## Freeing -/

/-- The process without a handle. -/
def remove (p : Process ν) (h : Nat) (registered : Bool) : Process ν :=
  { p with
    handles := Function.update p.handles h none
    allocated := Function.update p.allocated h false
    registered := Function.update p.registered h registered
    sAllocList := Function.update p.sAllocList h false }

/-- A handle that nobody is to free is in the way of no one. -/
theorem Sound.remove (hp : p.Sound) (hlost : p.Lost h) (registered : Bool) :
    (p.remove h registered).Sound := by
  have hframe : ∀ k owner, k ≠ h → p.Backs k owner → (p.remove h registered).Backs k owner := by
    intro k owner hk hback
    exact hback.congr (by simp [Process.remove, hk]) (by simp [Process.remove, hk])
      (by simp [Process.remove, hk])
  refine ⟨?_, ?_, hp.apart, hp.once, ?_, ?_, ?_⟩
  · intro v b k hv hk
    by_cases hown : b.mOwner = .ownNone
    · rw [hown]
      trivial
    · refine hframe k _ ?_ (hp.backed v b k hv hk)
      rintro rfl
      exact hlost.2.2 v b hv ⟨hk, hown⟩
  · intro k hk
    refine hframe k _ ?_ (hp.callers_backed k hk)
    rintro rfl
    simp [Process.remove, hlost.2.1] at hk
  · intro k hk
    by_cases hne : k = h
    · simp [Process.remove, hne] at hk
    · simp only [Process.remove, ne_eq, hne, not_false_eq_true, Function.update_of_ne] at hk ⊢
      exact hp.live k hk
  · intro k hk
    by_cases hne : k = h
    · simp [Process.remove, hne] at hk
    · simp only [Process.remove, ne_eq, hne, not_false_eq_true, Function.update_of_ne] at hk
      exact hp.fresh k hk
  · simp [Process.remove, hp.records]

theorem lost_remove {registered : Bool} {k : Nat} :
    (p.remove h registered).Lost k ↔ p.Lost k ∧ k ≠ h := by
  by_cases hne : k = h <;> simp [Lost, Process.remove, hne]

theorem Sound.freeHandle_ownHandle (hp : p.Sound) (hback : p.Backs h .ownHandle) (freed : Bool) :
    p.freeHandle .ownHandle h freed = some (p.remove h false) := by
  obtain ⟨hlive, hallocated, hregistered⟩ := hback
  have hsame : Function.update p.allocated h false = p.allocated := by
    rw [← hallocated, Function.update_eq_self]
  simp [freeHandle, unregisterBuffer, nativeHandleDelete, Process.remove, hregistered, hlive,
    hallocated, hp.records, hsame]

theorem freeHandle_ownData (hback : p.Backs h .ownData) :
    p.freeHandle .ownData h true = some (p.remove h (p.registered h)) := by
  simp [freeHandle, free, Process.remove, hback.2]

/-- A lost handle can be freed by such an owner as backs it, and then is no longer lost, unless
gralloc keeps it. -/
theorem Sound.freeHandle (hp : p.Sound) (hlost : p.Lost h) {owner : Owner}
    (hback : p.Backs h owner) (freed : Bool) :
    ∃ q, p.freeHandle owner h freed = some q ∧ q.Sound ∧ q.next = p.next ∧
      ∀ k, q.Lost k ↔ p.Lost k ∧ (k = h → owner = .ownNone ∨ owner = .ownData ∧ freed = false) := by
  cases owner with
  | ownNone => exact ⟨p, rfl, hp, rfl, fun k => by simp⟩
  | ownHandle =>
    refine ⟨_, hp.freeHandle_ownHandle hback freed, hp.remove hlost false, rfl, fun k => ?_⟩
    simp [lost_remove]
  | ownData =>
    cases freed with
    | false => exact ⟨p, by simp [Process.freeHandle, free, hback.2], hp, rfl, fun k => by simp⟩
    | true =>
      refine ⟨_, freeHandle_ownData hback, hp.remove hlost _, rfl, fun k => ?_⟩
      simp [lost_remove]

/-! ## Losses -/

/-- A sound process that has lost these handles in addition. -/
structure Becomes (p : Process ν) (loses : Nat → Prop) (q : Process ν) : Prop where
  sound : q.Sound
  lost_iff : ∀ h, q.Lost h ↔ p.Lost h ∨ loses h

/-- Nothing is lost. -/
def Nothing (_ : Nat) : Prop := False

theorem Sound.next_not_lost (hp : p.Sound) : ¬ p.Lost p.next := by
  intro hlost
  simp [hp.next_unused, Lost] at hlost

/-- A handle that is lost and found again. -/
theorem lost_and_found (hnot : ¬ p.Lost h) {k : Nat} :
    (p.Lost k ∨ k = h) ∧ k ≠ h ↔ p.Lost k ∨ Nothing k := by
  simp only [Nothing, or_false]
  constructor
  · rintro ⟨hlost | heq, hne⟩
    · exact hlost
    · exact absurd heq hne
  · intro hlost
    refine ⟨.inl hlost, ?_⟩
    rintro rfl
    exact hnot hlost

theorem Becomes.trans {r : Process ν} {loses : Nat → Prop} (hpq : p.Becomes loses q)
    (hqr : q.Becomes Nothing r) : p.Becomes loses r := by
  refine ⟨hqr.sound, fun h => ?_⟩
  rw [hqr.lost_iff, hpq.lost_iff]
  simp [Nothing]

/-! ## Buffers that own nothing -/

/-- What an object owns that has no buffer, or one that is not to free its handle. -/
def OwnsNothing (x : Option (GraphicBuffer ν)) : Prop := ∀ b h, x = some b → ¬ b.Owns h

theorem ownsNothing_none : OwnsNothing (none : Option (GraphicBuffer ν)) := by
  intro b h hb
  cases hb

theorem ownsNothing_of_isNone {x : Option (GraphicBuffer ν)} (hx : x.isNone = true) :
    OwnsNothing x := by
  rw [Option.isNone_iff_eq_none.mp hx]
  exact ownsNothing_none

theorem ownsNothing_of_handle (hb : b.handle = none) : OwnsNothing (some b) := by
  rintro c h hc hown
  cases hc
  have hh := hown.1
  rw [hb] at hh
  cases hh

theorem ownsNothing_of_mOwner (hb : b.mOwner = .ownNone) : OwnsNothing (some b) := by
  rintro c h hc hown
  cases hc
  exact hown.2 hb

variable [DecidableEq ν]

theorem setBuffer_setBuffer (x y : Option (GraphicBuffer ν)) :
    (p.setBuffer v x).setBuffer v y = p.setBuffer v y := by
  simp [setBuffer]

@[simp] theorem setBuffer_buffers (x : Option (GraphicBuffer ν)) :
    (p.setBuffer v x).buffers v = x := by
  simp [setBuffer]

theorem setBuffer_eq_some {x : Option (GraphicBuffer ν)} {u : ν} {c : GraphicBuffer ν} :
    (p.setBuffer v x).buffers u = some c ↔ u = v ∧ x = some c ∨ u ≠ v ∧ p.buffers u = some c := by
  by_cases hu : u = v
  · subst hu
    simp [setBuffer]
  · simp [setBuffer, hu]

theorem Sound.setBuffer (hp : p.Sound) {x : Option (GraphicBuffer ν)} (hx : OwnsNothing x) :
    (p.setBuffer v x).Sound := by
  refine ⟨?_, hp.callers_backed, ?_, ?_, hp.live, hp.fresh, hp.records⟩
  · intro u c k hu hk
    obtain ⟨rfl, hc⟩ | ⟨-, hc⟩ := setBuffer_eq_some.mp hu
    · have hnone : c.mOwner = .ownNone := by
        by_contra hne
        exact hx c k hc ⟨hk, hne⟩
      rw [hnone]
      trivial
    · exact hp.backed u c k hc hk
  · intro u c k hu hown
    obtain ⟨rfl, hc⟩ | ⟨-, hc⟩ := setBuffer_eq_some.mp hu
    · exact absurd hown (hx c k hc)
    · exact hp.apart u c k hc hown
  · intro u w c d k hu hw hc hd
    obtain ⟨rfl, hux⟩ | ⟨-, hu⟩ := setBuffer_eq_some.mp hu
    · exact absurd hc (hx c k hux)
    · obtain ⟨rfl, hwx⟩ | ⟨-, hw⟩ := setBuffer_eq_some.mp hw
      · exact absurd hd (hx d k hwx)
      · exact hp.once u w c d k hu hw hc hd

/-- What is lost when the buffer is given up without freeing its handle. -/
theorem lost_setBuffer {x : Option (GraphicBuffer ν)} (hp : p.Sound) (hx : OwnsNothing x) :
    (p.setBuffer v x).Lost h ↔ p.Lost h ∨ ∃ b, p.buffers v = some b ∧ b.Owns h := by
  constructor
  · rintro ⟨hlive, hcallers, hnot⟩
    by_cases hv : ∃ b, p.buffers v = some b ∧ b.Owns h
    · exact .inr hv
    · refine .inl ⟨hlive, hcallers, fun u c hu hown => ?_⟩
      by_cases huv : u = v
      · subst huv
        exact hv ⟨c, hu, hown⟩
      · exact hnot u c (setBuffer_eq_some.mpr (.inr ⟨huv, hu⟩)) hown
  · rintro (⟨hlive, hcallers, hnot⟩ | ⟨b, hv, hown⟩)
    · refine ⟨hlive, hcallers, fun u c hu hc => ?_⟩
      obtain ⟨rfl, hux⟩ | ⟨-, hu⟩ := setBuffer_eq_some.mp hu
      · exact hx c h hux hc
      · exact hnot u c hu hc
    · refine ⟨hp.owned_live hv hown, hp.apart v b h hv hown, fun u c hu hc => ?_⟩
      obtain ⟨rfl, hux⟩ | ⟨hne, hu⟩ := setBuffer_eq_some.mp hu
      · exact hx c h hux hc
      · exact hne (hp.once u v c b h hu hv hc hown)

/-- A buffer takes a handle that is lost. -/
theorem Sound.adopt (hp : p.Sound) (hv : OwnsNothing (p.buffers v)) (hlost : p.Lost h)
    (hh : b.handle = some h) (hback : p.Backs h b.mOwner) : (p.setBuffer v (some b)).Sound := by
  refine ⟨?_, hp.callers_backed, ?_, ?_, hp.live, hp.fresh, hp.records⟩
  · intro u c k hu hk
    obtain ⟨rfl, hc⟩ | ⟨-, hc⟩ := setBuffer_eq_some.mp hu
    · cases hc
      rw [hh] at hk
      cases hk
      exact hback
    · exact hp.backed u c k hc hk
  · intro u c k hu hown
    obtain ⟨rfl, hc⟩ | ⟨-, hc⟩ := setBuffer_eq_some.mp hu
    · cases hc
      have hk := hh.symm.trans hown.1
      cases hk
      exact hlost.2.1
    · exact hp.apart u c k hc hown
  · -- Whatever else owns a handle, it is not the one that was lost.
    have hother : ∀ u c, u ≠ v → p.buffers u = some c → ∀ k, c.Owns k → ¬ b.Owns k := by
      intro u c _ hu k hc hb
      have hk := hh.symm.trans hb.1
      cases hk
      exact hlost.2.2 u c hu hc
    intro u w c d k hu hw hc hd
    obtain ⟨rfl, hux⟩ | ⟨hune, hup⟩ := setBuffer_eq_some.mp hu
    · obtain ⟨rfl, -⟩ | ⟨hwne, hwp⟩ := setBuffer_eq_some.mp hw
      · rfl
      · cases hux
        exact absurd hc (hother w d hwne hwp k hd)
    · obtain ⟨rfl, hwx⟩ | ⟨-, hwp⟩ := setBuffer_eq_some.mp hw
      · cases hwx
        exact absurd hd (hother u c hune hup k hc)
      · exact hp.once u w c d k hup hwp hc hd

theorem lost_adopt (hv : OwnsNothing (p.buffers v)) (hown : b.Owns h) {k : Nat} :
    (p.setBuffer v (some b)).Lost k ↔ p.Lost k ∧ k ≠ h := by
  constructor
  · rintro ⟨hlive, hcallers, hnot⟩
    refine ⟨⟨hlive, hcallers, fun u c hu hc => ?_⟩, ?_⟩
    · by_cases huv : u = v
      · subst huv
        exact hv c k hu hc
      · exact hnot u c (setBuffer_eq_some.mpr (.inr ⟨huv, hu⟩)) hc
    · rintro rfl
      exact hnot v b (setBuffer_eq_some.mpr (.inl ⟨rfl, rfl⟩)) hown
  · rintro ⟨⟨hlive, hcallers, hnot⟩, hne⟩
    refine ⟨hlive, hcallers, fun u c hu hc => ?_⟩
    obtain ⟨rfl, hux⟩ | ⟨-, hu⟩ := setBuffer_eq_some.mp hu
    · cases hux
      have hk := hown.1.symm.trans hc.1
      cases hk
      exact hne rfl
    · exact hnot u c hu hc

theorem freeHandle_setBuffer {owner : Owner} {freed : Bool} {x : Option (GraphicBuffer ν)} :
    (p.setBuffer v x).freeHandle owner h freed =
      (p.freeHandle owner h freed).map fun q => q.setBuffer v x := by
  cases owner with
  | ownNone => rfl
  | ownHandle =>
    unfold Process.freeHandle unregisterBuffer nativeHandleDelete setBuffer
    simp only [Option.bind_eq_bind]
    split
    · simp only [Option.bind_some]
      split <;> rfl
    · rfl
  | ownData =>
    unfold Process.freeHandle free setBuffer
    dsimp only
    split
    · split <;> rfl
    · rfl

/-! ## What each event loses -/

theorem Sound.becomes_setBuffer (hp : p.Sound) (hv : OwnsNothing (p.buffers v))
    {x : Option (GraphicBuffer ν)} (hx : OwnsNothing x) :
    p.Becomes Nothing (p.setBuffer v x) := by
  refine ⟨hp.setBuffer hx, fun h => (lost_setBuffer hp hx).trans (or_congr_right ?_)⟩
  exact iff_of_false (fun ⟨b, hb, hown⟩ => hv b h hb hown) id

theorem Sound.becomes_adopt (hp : p.Sound) (hv : OwnsNothing (p.buffers v)) (hlost : p.Lost h)
    (hh : b.handle = some h) (hne : b.mOwner ≠ .ownNone) (hback : p.Backs h b.mOwner) :
    (p.setBuffer v (some b)).Sound ∧
      ∀ k, (p.setBuffer v (some b)).Lost k ↔ p.Lost k ∧ k ≠ h :=
  ⟨hp.adopt hv hlost hh hback, fun _ => lost_adopt hv ⟨hh, hne⟩⟩

/-- `initSize` of a buffer without handle. -/
theorem Sound.becomes_initSize (hp : p.Sound) (hv : OwnsNothing (p.buffers v))
    (hb : b.handle = none) (width height format usage : Word) (result : Allocation)
    {x : GraphicBuffer ν}
    (hx : x.handle = (p.initSize b width height format usage result).2.1.handle)
    (hxowner : x.mOwner = .ownData) :
    p.Becomes Nothing
      ((p.initSize b width height format usage result).1.setBuffer v (some x)) := by
  cases result with
  | none => exact hp.becomes_setBuffer hv (ownsNothing_of_handle (hx.trans hb))
  | some r =>
    obtain ⟨n, stride⟩ := r
    have hadd := hp.add n true
    have hlost : (p.add n true).Lost p.next := hp.lost_add.mpr (.inr rfl)
    have hback : (p.add n true).Backs p.next x.mOwner := by
      rw [hxowner]
      simp [Backs, Process.add]
    obtain ⟨hsound, hiff⟩ := hadd.becomes_adopt (v := v) hv hlost hx (by simp [hxowner]) hback
    refine ⟨hsound, fun k => (hiff k).trans ?_⟩
    rw [hp.lost_add]
    exact lost_and_found hp.next_not_lost

theorem initSize_setBuffer {x : Option (GraphicBuffer ν)} {width height format usage : Word}
    {result : Allocation} :
    (p.setBuffer v x).initSize b width height format usage result =
      ((p.initSize b width height format usage result).1.setBuffer v x,
        (p.initSize b width height format usage result).2) := by
  cases result <;> rfl

/-- A buffer that is given a handle. -/
theorem Sound.becomes_giveHandle (hp : p.Sound) (hv : OwnsNothing (p.buffers v))
    {keepOwnership : Bool} (howner : b.mOwner = ownerOf keepOwnership)
    (hcallers : ∀ h ∈ b.handle, keepOwnership = true → p.callers h = true) :
    p.Becomes Nothing ((p.giveHandle b.handle keepOwnership).setBuffer v (some b)) := by
  cases hb : b.handle with
  | none => exact hp.becomes_setBuffer hv (ownsNothing_of_handle hb)
  | some h =>
    cases keepOwnership with
    | false => exact hp.becomes_setBuffer hv (ownsNothing_of_mOwner howner)
    | true =>
      have hcaller : p.callers h = true := hcallers h hb rfl
      have hnot : ¬ p.Lost h := by
        intro hlost
        rw [hlost.2.1] at hcaller
        cases hcaller
      have howner : b.mOwner = .ownHandle := howner
      obtain ⟨hsound, hiff⟩ := (hp.give h).becomes_adopt (v := v) hv
        ((hp.lost_give hcaller).mpr (.inr rfl)) hb (by simp [howner])
        (by rw [howner]; exact hp.callers_backed h hcaller)
      refine ⟨hsound, fun k => (hiff k).trans ?_⟩
      rw [hp.lost_give hcaller]
      exact lost_and_found hnot

/-! ## The steps -/

/-- The handle of the buffer is freed, if it has one. -/
def release (p : Process ν) (b : GraphicBuffer ν) (freed : Bool) : Option (Process ν) :=
  match b.handle with
  | some h => p.freeHandle b.mOwner h freed
  | none => some p

/-- A buffer that gives up its handle. -/
theorem Sound.release (hp : p.Sound) (hv : p.buffers v = some b) (freed : Bool) :
    ∃ q, p.release b freed = some q ∧ q.next = p.next ∧
      p.Becomes (fun h => b.OwnsData h ∧ freed = false) (q.setBuffer v none) := by
  have hforget := hp.setBuffer (v := v) ownsNothing_none
  have hiff := fun k => lost_setBuffer (h := k) (v := v) hp ownsNothing_none
  cases hb : b.handle with
  | none =>
    refine ⟨p, by simp [Process.release, hb], rfl, hforget, fun k => (hiff k).trans ?_⟩
    simp [hv, GraphicBuffer.Owns, GraphicBuffer.OwnsData, hb]
  | some h =>
    by_cases hnone : b.mOwner = .ownNone
    · refine ⟨p, by simp [Process.release, hb, hnone, Process.freeHandle], rfl, hforget,
        fun k => (hiff k).trans ?_⟩
      simp [hv, GraphicBuffer.Owns, GraphicBuffer.OwnsData, hnone]
    · have hlost : (p.setBuffer v none).Lost h := (hiff h).mpr (.inr ⟨b, hv, hb, hnone⟩)
      have hback : (p.setBuffer v none).Backs h b.mOwner := hp.backed v b h hv hb
      have hnot : ¬ p.Lost h := fun hlost => hlost.2.2 v b hv ⟨hb, hnone⟩
      obtain ⟨r, hr, hsound, hnext, hrlost⟩ := hforget.freeHandle hlost hback freed
      rw [freeHandle_setBuffer, Option.map_eq_some_iff] at hr
      obtain ⟨q, hq, rfl⟩ := hr
      refine ⟨q, by simpa [Process.release, hb] using hq, hnext, hsound, fun k => ?_⟩
      rw [hrlost, hiff]
      simp only [hv, Option.some.injEq, exists_eq_left', GraphicBuffer.Owns,
        GraphicBuffer.OwnsData, hb, hnone, ne_eq, not_false_eq_true, and_true, false_or]
      by_cases hk : k = h
      · subst hk
        simp [hnot]
      · simp [hk, Ne.symm hk]

theorem destroy_eq (freed : Bool) :
    p.destroy v b freed = (p.release b freed).map fun q => q.setBuffer v none := by
  unfold destroy release
  cases b.handle with
  | none => rfl
  | some h => exact Option.map_eq_bind.symm

theorem Sound.becomes_destroy (hp : p.Sound) (hv : p.buffers v = some b) (freed : Bool) :
    ∃ q, p.destroy v b freed = some q ∧
      p.Becomes (fun h => b.OwnsData h ∧ freed = false) q := by
  obtain ⟨q, hq, -, hbecomes⟩ := hp.release hv freed
  exact ⟨_, by rw [destroy_eq, hq]; rfl, hbecomes⟩

theorem reallocate_eq {width height format usage : Word} {freed : Bool} {result : Allocation}
    (howner : b.mOwner = .ownData) (hsame : ¬ Same b width height format usage) :
    p.reallocate v b width height format usage freed result =
      (p.release b freed).map fun q =>
        let r := q.initSize { b with handle := none } width height format usage result
        (r.1.setBuffer v (some r.2.1), r.2.2) := by
  simp only [reallocate, howner, ne_eq, not_true_eq_false, if_false, hsame, release]
  cases b.handle with
  | none => rfl
  | some h => exact Option.map_eq_bind.symm

theorem Sound.becomes_reallocate (hp : p.Sound) (hv : p.buffers v = some b)
    (width height format usage : Word) (freed : Bool) (result : Allocation) :
    ∃ q status, p.reallocate v b width height format usage freed result = some (q, status) ∧
      p.Becomes (fun h => b.OwnsData h ∧ ¬ Same b width height format usage ∧ freed = false) q := by
  by_cases howner : b.mOwner = .ownData
  · by_cases hsame : Same b width height format usage
    · refine ⟨p, .noError, ?_, hp, fun h => by simp [hsame]⟩
      simp [reallocate, howner, hsame]
    · obtain ⟨q, hq, -, hbecomes⟩ := hp.release hv freed
      have hloses : (fun h => b.OwnsData h ∧ ¬ Same b width height format usage ∧ freed = false) =
          fun h => b.OwnsData h ∧ freed = false := by
        simp [hsame]
      refine ⟨_, _, by rw [reallocate_eq howner hsame, hq]; rfl, ?_⟩
      rw [hloses]
      -- What was in the place of the new contents does not matter.
      have hinit := hbecomes.sound.becomes_initSize (v := v) (b := { b with handle := none })
        (by simp [ownsNothing_none]) rfl width height format usage result rfl
        (by cases result <;> exact howner)
      rw [initSize_setBuffer, setBuffer_setBuffer] at hinit
      exact hbecomes.trans hinit
  · refine ⟨p, .invalidOperation, by simp [reallocate, howner], hp, fun h => ?_⟩
    simp [GraphicBuffer.OwnsData, howner]

/-- `unflatten` of a buffer that has no handle any more. -/
theorem Sound.becomes_receive (hp : p.Sound) (hv : OwnsNothing (p.buffers v))
    (d : Contents) (created registered : Bool) :
    p.Becomes
      (fun h => h = p.next ∧ d.handle.isSome = true ∧ created = true ∧ registered = false)
      (p.receive v b d created registered).1 := by
  have hcleared : ∀ owner, OwnsNothing (some { b.cleared with mOwner := owner }) := by
    intro owner
    exact ownsNothing_of_handle rfl
  unfold receive
  cases hd : d.handle with
  | none =>
    obtain ⟨hsound, hiff⟩ := hp.becomes_setBuffer hv (hcleared .ownHandle)
    exact ⟨hsound, fun k => (hiff k).trans (by simp [Nothing])⟩
  | some n =>
    cases created with
    | false =>
      obtain ⟨hsound, hiff⟩ := hp.becomes_setBuffer hv (hcleared b.mOwner)
      exact ⟨hsound, fun k => (hiff k).trans (by simp [Nothing])⟩
    | true =>
      have hadd := hp.add n false
      simp only [if_true, hp.nativeHandleCreate_eq_add]
      cases registered with
      | false =>
        obtain ⟨hsound, hiff⟩ := hadd.becomes_setBuffer (v := v) hv (hcleared .ownHandle)
        refine ⟨hsound, fun k => (hiff k).trans ?_⟩
        simp [hp.lost_add, Nothing]
      | true =>
        have hlost : ((p.add n false).registerBuffer p.next).Lost p.next :=
          lost_registerBuffer.mpr (hp.lost_add.mpr (.inr rfl))
        have hback : ((p.add n false).registerBuffer p.next).Backs p.next .ownHandle := by
          simp [Backs, Process.registerBuffer, Process.add]
        obtain ⟨hsound, hiff⟩ := (hadd.registerBuffer p.next).becomes_adopt (v := v) (b :=
          { b with
            width := d.width
            height := d.height
            stride := d.stride
            format := d.format
            usage := d.usage
            handle := some p.next
            mOwner := .ownHandle }) hv hlost rfl (by simp) hback
        refine ⟨hsound, fun k => (hiff k).trans ?_⟩
        rw [lost_registerBuffer, hp.lost_add, lost_and_found hp.next_not_lost]
        simp [Nothing]

theorem receive_setBuffer {x : Option (GraphicBuffer ν)} {d : Contents}
    {created registered : Bool} :
    (p.setBuffer v x).receive v b d created registered =
      p.receive v b d created registered := by
  unfold receive
  cases d.handle with
  | none => simp [setBuffer_setBuffer]
  | some n =>
    cases created with
    | false => simp [setBuffer_setBuffer]
    | true => cases registered <;> simp [setBuffer, nativeHandleCreate, registerBuffer]

/-- The handles that an event loses. -/
def Loses (p : Process ν) (e : Event ν) (h : Nat) : Prop :=
  match e with
  | .destroy v freed => ∃ b, p.buffers v = some b ∧ b.OwnsData h ∧ freed = false
  | .reallocate v width height format usage freed _ =>
    ∃ b, p.buffers v = some b ∧ b.OwnsData h ∧ ¬ Same b width height format usage ∧ freed = false
  | .unflatten v c m freed created registered =>
    match parse c m with
    | some .tooLarge => ∃ b, p.buffers v = some b ∧ b.Owns h
    | some (.data d _) =>
      (∃ b, p.buffers v = some b ∧ b.OwnsData h ∧ freed = false) ∨
        h = p.next ∧ d.handle.isSome = true ∧ created = true ∧ registered = false
    | _ => False
  | _ => False

theorem unflatten_eq {c : Cursor} {m : Memory} {d : Contents} {rest : Cursor}
    (hparse : parse c m = some (.data d rest)) (freed created registered : Bool) :
    ∃ b', p.unflatten v b c m freed created registered = (p.release b freed).map fun q =>
      let r := q.receive v b' d created registered
      ((r.1, if r.2 = .noError then rest else c), r.2) := by
  simp only [unflatten, hparse, release]
  cases hb : b.handle with
  | none => exact ⟨b, rfl⟩
  | some h =>
    refine ⟨{ b with mWrappedBuffer := none }, ?_⟩
    cases hfree : p.freeHandle b.mOwner h freed with
    | none => simp [hfree]
    | some q => simp [hfree, hb]

theorem Sound.becomes_unflatten (hp : p.Sound) (hv : p.buffers v = some b) {c : Cursor}
    {m : Memory} (hparse : (parse c m).isSome = true) (freed created registered : Bool) :
    ∃ q c' status, p.unflatten v b c m freed created registered = some ((q, c'), status) ∧
      p.Becomes (p.Loses (.unflatten v c m freed created registered)) q := by
  obtain ⟨r, hr⟩ := Option.isSome_iff_exists.mp hparse
  cases r with
  | refused status =>
    refine ⟨p, c, status, by simp [unflatten, hr], hp, fun h => ?_⟩
    simp [Loses, hr]
  | tooLarge =>
    refine ⟨p.setBuffer v (some b.cleared), c, .badValue, by simp [unflatten, hr], ?_,
      fun h => ?_⟩
    · exact hp.setBuffer (ownsNothing_of_handle rfl)
    · rw [lost_setBuffer hp (ownsNothing_of_handle rfl)]
      simp [Loses, hr]
  | data d rest =>
    obtain ⟨q, hq, hnext, hbecomes⟩ := hp.release hv freed
    obtain ⟨b', heq⟩ := p.unflatten_eq (v := v) (b := b) hr freed created registered
    refine ⟨(q.receive v b' d created registered).1, _, (q.receive v b' d created registered).2,
      by rw [heq, hq]; rfl, ?_⟩
    have hreceive := hbecomes.sound.becomes_receive (v := v) (b := b')
      (by simp [ownsNothing_none]) d created registered
    rw [receive_setBuffer] at hreceive
    refine ⟨hreceive.sound, fun h => ?_⟩
    rw [hreceive.lost_iff, hbecomes.lost_iff, or_assoc]
    simp [Loses, hr, hv, ← hnext, Process.setBuffer]

/-! ## Runs -/

/-- What one step does. -/
theorem Sound.becomes_makeHandle (hp : p.Sound) (n : NativeHandle) :
    ∃ q, p.handle (.makeHandle n) = some q ∧ p.Becomes Nothing q := by
  have hlost : ((p.add n false).registerBuffer p.next).Lost p.next :=
    lost_registerBuffer.mpr (hp.lost_add.mpr (.inr rfl))
  have hback : ((p.add n false).registerBuffer p.next).Backs p.next .ownHandle := by
    simp [Backs, Process.registerBuffer, Process.add]
  have hsound := ((hp.add n false).registerBuffer p.next).take hlost hback
  refine ⟨_, rfl, ?_⟩
  rw [hp.nativeHandleCreate_eq_add]
  refine ⟨hsound, fun k => lost_take.trans ?_⟩
  rw [lost_registerBuffer, hp.lost_add]
  exact lost_and_found hp.next_not_lost

theorem Sound.becomes_releaseHandle (hp : p.Sound) (hcaller : p.callers h = true) :
    ∃ q, p.handle (.releaseHandle h) = some q ∧ p.Becomes Nothing q := by
  have hback := hp.callers_backed h hcaller
  have hlost := (hp.lost_give hcaller (k := h)).mpr (.inr rfl)
  have hnot : ¬ p.Lost h := by
    intro hlost
    rw [hlost.2.1] at hcaller
    cases hcaller
  have hbecomes : p.Becomes Nothing
      (Process.remove { p with callers := Function.update p.callers h false } h false) := by
    refine ⟨(hp.give h).remove hlost false, fun k => lost_remove.trans ?_⟩
    rw [hp.lost_give hcaller]
    exact lost_and_found hnot
  exact ⟨_, by simp [handle, hp.freeHandle_ownHandle hback]; rfl, hbecomes⟩

variable [Fintype ν]

theorem Sound.becomes_handle (hp : p.Sound) {e : Event ν} (hallowed : p.Allowed e) :
    ∃ q, p.handle e = some q ∧ p.Becomes (p.Loses e) q := by
  have hempty : OwnsNothing (some (GraphicBuffer.empty : GraphicBuffer ν)) :=
    ownsNothing_of_handle rfl
  cases e with
  | construct v =>
    exact ⟨_, rfl, hp.becomes_setBuffer (ownsNothing_of_isNone hallowed) hempty⟩
  | constructSize v width height format usage result =>
    exact ⟨_, rfl, hp.becomes_initSize (ownsNothing_of_isNone hallowed) rfl width height format
      usage result rfl (by cases result <;> rfl)⟩
  | constructHandle v width height format usage stride h keepOwnership =>
    obtain ⟨hnone, hcallers⟩ := hallowed
    have hv := ownsNothing_of_isNone hnone
    refine ⟨_, rfl, hp.becomes_giveHandle (b := ⟨width, height, stride, format, usage, some h,
      ownerOf keepOwnership, .noError, none⟩) hv rfl fun k hk => ?_⟩
    cases hk
    exact hcallers
  | constructWrapper v u keepOwnership =>
    obtain ⟨hnone, hsome, hcallers⟩ := hallowed
    have hv := ownsNothing_of_isNone hnone
    obtain ⟨b, hb⟩ := Option.isSome_iff_exists.mp hsome
    refine ⟨p.constructWrapper v u b keepOwnership, by simp [handle, hb], ?_⟩
    exact hp.becomes_giveHandle (b := { b with
      mOwner := ownerOf keepOwnership
      mInitCheck := .noError
      mWrappedBuffer := some u }) hv rfl (hcallers b hb)
  | destroy v freed =>
    obtain ⟨b, hb⟩ := Option.isSome_iff_exists.mp hallowed.1
    obtain ⟨q, hq, hbecomes⟩ := hp.becomes_destroy hb freed
    refine ⟨q, by simp [handle, hb, hq], hbecomes.sound, fun h => ?_⟩
    rw [hbecomes.lost_iff]
    simp [Loses, hb]
  | reallocate v width height format usage freed result =>
    obtain ⟨b, hb⟩ := Option.isSome_iff_exists.mp hallowed
    obtain ⟨q, status, hq, hbecomes⟩ :=
      hp.becomes_reallocate hb width height format usage freed result
    refine ⟨q, by simp [handle, hb, hq], hbecomes.sound, fun h => ?_⟩
    rw [hbecomes.lost_iff]
    simp [Loses, hb]
  | unflatten v c m freed created registered =>
    obtain ⟨hsome, hparse⟩ := hallowed
    obtain ⟨b, hb⟩ := Option.isSome_iff_exists.mp hsome
    obtain ⟨q, c', status, hq, hbecomes⟩ := hp.becomes_unflatten hb hparse freed created registered
    exact ⟨q, by simp [handle, hb, hq], hbecomes⟩
  | makeHandle n => exact hp.becomes_makeHandle n
  | releaseHandle h => exact hp.becomes_releaseHandle hallowed

theorem Sound.becomes_step (hp : p.Sound) {e : Event ν} (hstep : step p e = some q) :
    p.Becomes (p.Loses e) q := by
  unfold step at hstep
  split_ifs at hstep with hallowed
  obtain ⟨r, hr, hbecomes⟩ := hp.becomes_handle hallowed
  rw [hr] at hstep
  cases hstep
  exact hbecomes

/-- In every run a handle has at most one owner, which can free it, and whatever happens next, no
handle is freed twice. -/
theorem handles_owned_once (es : List (Event ν)) :
    Always (fun p => p.Sound ∧ ∀ e, p.Allowed e → (p.handle e).isSome = true) step
      (start : Process ν) es := by
  refine always_of_invariant Sound (fun p e q hp hstep => (hp.becomes_step hstep).sound) ?_
    sound_start es
  intro p hp
  refine ⟨hp, fun e hallowed => ?_⟩
  obtain ⟨q, hq, -⟩ := hp.becomes_handle hallowed
  exact Option.isSome_iff_exists.mpr ⟨q, hq⟩

/-- A handle is lost at the end of a run exactly when one of the steps has lost it. -/
theorem handles_lost {es : List (Event ν)} (hes : Steps step start es p) :
    p.Lost h ↔ ∃ es₁ e es₂ q, es = es₁ ++ e :: es₂ ∧ Steps step start es₁ q ∧ q.Loses e h := by
  have hstart : ¬ (start : Process ν).Lost h := by
    intro hlost
    exact absurd hlost.1 (by simp [start])
  rw [hes.iff_or_exists Sound (fun p e q hp hstep => (hp.becomes_step hstep).sound)
    (fun p e q hp hstep => (hp.becomes_step hstep).lost_iff h) sound_start]
  simp only [hstart, false_or]

/-- A buffer of one pixel, which then receives the size of too large a handle. -/
def oversized : List (Event Unit) :=
  [.constructSize () 1 1 1 1 (some (⟨[], [], by decide, by decide⟩, 1)),
    .unflatten () ⟨0, 32, 0, 0⟩ ⟨[gbfr, 2, 2, 2, 1, 1, 4096, 0], []⟩ true true true]

theorem handles_lost_oversized : ∃ p, Steps step start oversized p ∧ p.Lost 0 := by
  have hfirst : step (start : Process Unit)
      (.constructSize () 1 1 1 1 (some (⟨[], [], by decide, by decide⟩, 1))) =
        some (start.constructSize () 1 1 1 1 (some (⟨[], [], by decide, by decide⟩, 1))) := rfl
  obtain ⟨p, hp⟩ : ∃ p, Steps step start oversized p :=
    ⟨_, .cons hfirst (.cons rfl .refl)⟩
  exact ⟨p, hp, (handles_lost hp).mpr
    ⟨[_], _, [], _, rfl, .cons hfirst .refl, _, rfl, rfl, by decide⟩⟩

end Process
end Graphics
end Huashan
