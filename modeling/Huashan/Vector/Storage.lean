import Huashan.Vector.VectorImpl

/-!
# Huashan.Vector.Storage

What is in order between the operations, and what `release_storage`, `_grow` and `_shrink` do.

* `Holds p xs`: the buffer `p` has the items `xs` and nothing else.
* `Refines abs`: every vector `v` has the items `abs v`, and the references to a buffer are the
  vectors that have it.
* `Rest v hand abs`: the same for all vectors but `v`, with the references in `hand` for the
  running operation on `v`.
* `Owns v q abs`: `v` alone has the buffer `q`, so its slots can be changed.
-/

namespace Huashan
namespace Vector

/-- The program is not ended or `post` holds; nothing undefined is done. -/
def Safely {β : Type} (r : Except Fault β) (post : β → Prop) : Prop :=
  match r with
  | .ok x => post x
  | .error f => f = .fatal

section Safely

variable {β γ : Type} {r : Except Fault β} {pre : β → Prop} {post : γ → Prop}

theorem Safely.bind {f : β → Except Fault γ} (pre : β → Prop) (h : Safely r pre)
    (hf : ∀ x, pre x → Safely (f x) post) : Safely (r >>= f) post := by
  cases r with
  | error e => exact h
  | ok x => exact hf x h

theorem Safely.mono {post' : β → Prop} (h : Safely r pre) (hp : ∀ x, pre x → post' x) :
    Safely r post' := by
  cases r with
  | error e => exact h
  | ok x => exact hp x h

theorem Safely.of_eq {x : β} (h : r = .ok x) (hx : pre x) : Safely r pre := by
  rw [h]
  exact hx

theorem safely_guardFatal {b : Bool} {f : Unit → Except Fault γ}
    (h : b = false → Safely (f ()) post) : Safely (World.guardFatal b >>= f) post := by
  cases b with
  | true => rfl
  | false => exact h rfl

end Safely

namespace World

variable {H P ν α : Type} [DecidableEq P] [DecidableEq ν]
variable {B : SharedBuffer H P} {T : ItemType α} {w w' : World H P ν α}
variable {u v : ν} {p q : P} {hand : List P} {abs : ν → List α} {xs ys : List α}

section Memory

omit [DecidableEq ν]

@[simp] theorem setMem_heap (b : Block α) : (w.setMem p b).heap = w.heap := rfl
@[simp] theorem setMem_vec (b : Block α) : (w.setMem p b).vec = w.vec := rfl
@[simp] theorem setMem_mem (b : Block α) : (w.setMem p b).mem p = b := by simp [setMem]
@[simp] theorem slots_setMem (b : Block α) : (w.setMem p b).slots B T q = w.slots B T q := rfl

theorem setMem_mem_of_ne {b : Block α} (h : q ≠ p) : (w.setMem p b).mem q = w.mem q := by
  simp [setMem, h]

theorem slots_eq {n : Nat} (h : B.size w.heap p = some (n * T.itemSize)) : w.slots B T p = n := by
  simp [slots, h, Nat.mul_div_cancel n T.itemSize_pos]

end Memory

section Vectors

omit [DecidableEq P]

@[simp] theorem setVec_heap (x : VectorImpl P) : (w.setVec v x).heap = w.heap := rfl
@[simp] theorem setVec_mem (x : VectorImpl P) : (w.setVec v x).mem = w.mem := rfl
@[simp] theorem setVec_vec (x : VectorImpl P) : (w.setVec v x).vec v = x := by simp [setVec]
@[simp] theorem setStorage_heap (o : Option P) : (w.setStorage v o).heap = w.heap := rfl
@[simp] theorem setStorage_mem (o : Option P) : (w.setStorage v o).mem = w.mem := rfl
@[simp] theorem setStorage_vec (o : Option P) :
    (w.setStorage v o).vec v = { w.vec v with mStorage := o } := by simp [setStorage]
@[simp] theorem setCount_heap (n : Nat) : (w.setCount v n).heap = w.heap := rfl
@[simp] theorem setCount_mem (n : Nat) : (w.setCount v n).mem = w.mem := rfl
@[simp] theorem setCount_vec (n : Nat) :
    (w.setCount v n).vec v = { w.vec v with mCount := n } := by simp [setCount]

theorem setVec_vec_of_ne {x : VectorImpl P} (h : u ≠ v) : (w.setVec v x).vec u = w.vec u := by
  simp [setVec, h]

end Vectors

@[simp] theorem slots_setVec (x : VectorImpl P) : (w.setVec v x).slots B T q = w.slots B T q := rfl
@[simp] theorem slots_setStorage (o : Option P) :
    (w.setStorage v o).slots B T q = w.slots B T q := rfl
@[simp] theorem slots_setCount (n : Nat) : (w.setCount v n).slots B T q = w.slots B T q := rfl

/-! ## What is in order -/

structure Holds (B : SharedBuffer H P) (T : ItemType α) (w : World H P ν α) (p : P)
    (xs : List α) : Prop where
  filled : (w.mem p).Filled 0 xs
  room : xs.length ≤ w.slots B T p
  raw : T.trivialDtor = false → (w.mem p).RawFrom xs.length

def Keeps (B : SharedBuffer H P) (T : ItemType α) (w : World H P ν α) (v : ν)
    (xs : List α) : Prop :=
  w.size v = xs.length ∧
    match (w.vec v).mStorage with
    | none => xs = []
    | some p => w.Holds B T p xs

section Items

omit [DecidableEq ν]

theorem Holds.congr (h : w.Holds B T p xs) (hm : w'.mem p = w.mem p)
    (hs : B.size w'.heap p = B.size w.heap p) : w'.Holds B T p xs where
  filled := by rw [hm]; exact h.filled
  room := by simp only [slots, hs]; exact h.room
  raw := by rw [hm]; exact h.raw

/-- A vector keeps its items when its buffer does not change. -/
theorem Keeps.congr (h : w.Keeps B T u xs) (hv : w'.vec u = w.vec u)
    (hp : ∀ p, (w.vec u).mStorage = some p →
      w'.mem p = w.mem p ∧ B.size w'.heap p = B.size w.heap p) : w'.Keeps B T u xs := by
  obtain ⟨hn, hx⟩ := h
  refine ⟨by simpa only [size, hv] using hn, ?_⟩
  rw [hv]
  cases hs : (w.vec u).mStorage with
  | none => simpa [hs] using hx
  | some p =>
    simp only [hs] at hx ⊢
    exact hx.congr (hp p hs).1 (hp p hs).2

theorem doDestroy_of_holds (hx : w.Holds B T p xs) :
    ∃ w', w.doDestroy B T p 0 xs.length = .ok w' ∧ w'.heap = w.heap ∧ w'.vec = w.vec ∧
      (∀ q, q ≠ p → w'.mem q = w.mem q) ∧
      (T.trivialDtor = false → (w'.mem p).RawFrom 0) := by
  by_cases ht : T.trivialDtor = true
  · refine ⟨w, by simp [doDestroy, ht], rfl, rfl, fun _ _ => rfl, fun hf => ?_⟩
    rw [ht] at hf
    cases hf
  · have ht' : T.trivialDtor = false := by simpa using ht
    have hall : w.AllObjects p 0 xs.length := fun i hi =>
      hx.filled.isObject (by omega) (by omega)
    have hroom : 0 + xs.length ≤ w.slots B T p := by simpa using hx.room
    refine ⟨w.setMem p ((w.mem p).destroy 0 xs.length), ?_, rfl, rfl,
      fun q hq => setMem_mem_of_ne hq, fun _ => ?_⟩
    · simp only [doDestroy, ht', Bool.false_eq_true, if_false]
      rw [if_pos ⟨hroom, hall⟩]
    rw [setMem_mem]
    apply Block.rawFrom_destroy
    simpa using hx.raw ht'

end Items

variable [Fintype ν]

/-- The vectors other than `v` that have the buffer `p`. -/
def others (w : World H P ν α) (v : ν) (p : P) : Finset ν :=
  Finset.univ.filter fun u => u ≠ v ∧ (w.vec u).mStorage = some p

structure Rest (B : SharedBuffer H P) (T : ItemType α) (w : World H P ν α) (v : ν)
    (hand : List P) (abs : ν → List α) : Prop where
  counts : ∀ p, B.refs w.heap p = (w.others v p).card + hand.count p
  freed : ∀ p, B.size w.heap p = none ↔ B.refs w.heap p = 0
  raw : T.trivialDtor = false → ∀ p, B.size w.heap p = none → (w.mem p).RawFrom 0
  kept : ∀ u, u ≠ v → w.Keeps B T u (abs u)

structure Owns (B : SharedBuffer H P) (T : ItemType α) (w : World H P ν α) (v : ν) (q : P)
    (abs : ν → List α) : Prop where
  rest : w.Rest B T v [q] abs
  storage : (w.vec v).mStorage = some q
  sole : B.refs w.heap q = 1

/-- The vectors that have the buffer `p`. -/
def holders (w : World H P ν α) (p : P) : Finset ν :=
  Finset.univ.filter fun u => (w.vec u).mStorage = some p

structure Refines (B : SharedBuffer H P) (T : ItemType α) (w : World H P ν α)
    (abs : ν → List α) : Prop where
  counts : ∀ p, B.refs w.heap p = (w.holders p).card
  freed : ∀ p, B.size w.heap p = none ↔ B.refs w.heap p = 0
  raw : T.trivialDtor = false → ∀ p, B.size w.heap p = none → (w.mem p).RawFrom 0
  kept : ∀ v, w.Keeps B T v (abs v)

theorem card_holders (w : World H P ν α) (v : ν) (p : P) :
    (w.holders p).card = (w.others v p).card + ((w.vec v).mStorage.toList).count p := by
  have hothers : w.others v p = (w.holders p).erase v := by
    ext u
    simp [others, holders]
  rw [hothers]
  by_cases h : (w.vec v).mStorage = some p
  · have hmem : v ∈ w.holders p := by simp [holders, h]
    rw [Finset.card_erase_of_mem hmem]
    have := Finset.card_pos.mpr ⟨v, hmem⟩
    simp [h]
    omega
  · have hmem : v ∉ w.holders p := by simp [holders, h]
    rw [Finset.erase_eq_of_notMem hmem]
    cases hs : (w.vec v).mStorage with
    | none => simp
    | some q =>
      have hne : q ≠ p := fun he => h (he ▸ hs)
      simp [hne]

/-- All is in order when it is for one vector and for the rest. -/
theorem refines_iff_rest : w.Refines B T abs ↔
    w.Rest B T v (w.vec v).mStorage.toList abs ∧ w.Keeps B T v (abs v) := by
  constructor
  · intro h
    refine ⟨⟨fun p => ?_, h.freed, h.raw, fun u _ => h.kept u⟩, h.kept v⟩
    rw [h.counts p, card_holders]
  · rintro ⟨h, hv⟩
    refine ⟨fun p => ?_, h.freed, h.raw, fun u => ?_⟩
    · rw [h.counts p, card_holders]
    · by_cases hu : u = v
      · exact hu ▸ hv
      · exact h.kept u hu

theorem Rest.refines (h : w.Rest B T v (w.vec v).mStorage.toList abs) (hv : w.Keeps B T v xs) :
    w.Refines B T (Function.update abs v xs) := by
  refine refines_iff_rest.mpr ⟨⟨h.counts, h.freed, h.raw, fun u hu => ?_⟩, ?_⟩
  · rw [Function.update_of_ne hu]
    exact h.kept u hu
  · rw [Function.update_self]
    exact hv

theorem Rest.setVec (h : w.Rest B T v hand abs) (x : VectorImpl P) :
    (w.setVec v x).Rest B T v hand abs where
  counts p := by
    have : (w.setVec v x).others v p = w.others v p := by
      ext u
      simp only [others, Finset.mem_filter, Finset.mem_univ, true_and]
      refine and_congr_right fun hu => ?_
      rw [setVec_vec_of_ne hu]
    rw [this]
    exact h.counts p
  freed := h.freed
  raw := h.raw
  kept u hu := (h.kept u hu).congr (setVec_vec_of_ne hu) fun _ _ => ⟨rfl, rfl⟩

theorem Rest.others_eq_empty (h : w.Rest B T v hand abs) (hp : p ∈ hand)
    (h1 : B.refs w.heap p = 1) : w.others v p = ∅ := by
  have := h.counts p
  have := List.count_pos_iff.mpr hp
  rw [← Finset.card_eq_zero]
  omega

theorem ne_of_others_eq_empty (h : w.others v p = ∅) (hu : u ≠ v)
    (hq : (w.vec u).mStorage = some q) : q ≠ p := by
  rintro rfl
  have : u ∈ w.others v q := by simp [others, hu, hq]
  rw [h] at this
  simp at this

/-- The slots of a buffer with one reference are nobody else's. -/
theorem Rest.setMem (h : w.Rest B T v hand abs) (hp : p ∈ hand) (h1 : B.refs w.heap p = 1)
    (b : Block α) : (w.setMem p b).Rest B T v hand abs where
  counts := h.counts
  freed := h.freed
  raw ht r hr := by
    have hne : r ≠ p := by
      rintro rfl
      have := (h.freed r).mp hr
      omega
    rw [setMem_mem_of_ne hne]
    exact h.raw ht r hr
  kept u hu := (h.kept u hu).congr rfl fun r hr => by
    refine ⟨setMem_mem_of_ne ?_, rfl⟩
    exact ne_of_others_eq_empty (h.others_eq_empty hp h1) hu hr

theorem Owns.setMem (h : w.Owns B T v q abs) (b : Block α) : (w.setMem q b).Owns B T v q abs :=
  ⟨h.rest.setMem List.mem_cons_self h.sole b, h.storage, h.sole⟩

theorem Owns.setCount (h : w.Owns B T v q abs) (n : Nat) : (w.setCount v n).Owns B T v q abs :=
  ⟨h.rest.setVec _, by simp [h.storage], h.sole⟩

/-! ## References -/

/-- The buffers that several vectors have are the same as before. -/
def SharedSame (B : SharedBuffer H P) (w w' : World H P ν α) : Prop :=
  ∀ r, 1 < B.refs w.heap r → w'.mem r = w.mem r ∧ B.size w'.heap r = B.size w.heap r

/-- Everything is the same but, perhaps, the state of the heap. -/
structure SameBuffers (B : SharedBuffer H P) (w w' : World H P ν α) : Prop where
  mem : w'.mem = w.mem
  vec : w'.vec = w.vec
  refs : B.refs w'.heap = B.refs w.heap
  size : B.size w'.heap = B.size w.heap

theorem SameBuffers.rest (hs : w.SameBuffers B w') (h : w.Rest B T v hand abs) :
    w'.Rest B T v hand abs where
  counts p := by
    simp only [others, hs.vec, hs.refs]
    exact h.counts p
  freed p := by
    rw [hs.size, hs.refs]
    exact h.freed p
  raw ht p hp := by
    rw [hs.mem]
    rw [hs.size] at hp
    exact h.raw ht p hp
  kept u hu := (h.kept u hu).congr (by rw [hs.vec]) fun _ _ => ⟨by rw [hs.mem], by rw [hs.size]⟩

omit [DecidableEq ν] [Fintype ν] in
theorem SameBuffers.keeps (hs : w.SameBuffers B w') (h : w.Keeps B T v xs) :
    w'.Keeps B T v xs :=
  h.congr (by rw [hs.vec]) fun _ _ => ⟨by rw [hs.mem], by rw [hs.size]⟩

/-- The reference of a vector is given back, and with the last one the buffer goes. -/
theorem releaseStorage_spec (hr : w.Rest B T v (p :: hand) abs)
    (hv : (w.vec v).mStorage = some p) (hn : w.size v = xs.length) (hx : w.Holds B T p xs) :
    ∃ w', w.releaseStorage B T v = .ok w' ∧ w'.Rest B T v hand abs ∧ w'.vec = w.vec ∧
      (∀ q, q ≠ p ∨ 1 < B.refs w.heap p →
        w'.mem q = w.mem q ∧ B.size w'.heap q = B.size w.heap q) ∧
      ∀ q, q ≠ p → B.refs w'.heap q = B.refs w.heap q := by
  have hcount := hr.counts p
  rw [List.count_cons_self] at hcount
  have hpos : 0 < B.refs w.heap p := by omega
  obtain ⟨hrefs, hsize, hbefore⟩ := B.release_eq hpos
  generalize hh : (B.release w.heap p).1 = heap at hrefs hsize
  let w₁ : World H P ν α := { w with heap := heap }
  have hx₁ : w₁.Holds B T p xs := hx.congr rfl (by simp [w₁, hsize])
  have hcounts : ∀ r, B.refs heap r = (w.others v r).card + hand.count r := by
    intro r
    rw [hrefs]
    by_cases h : r = p
    · subst h
      rw [Function.update_self]
      omega
    · rw [Function.update_of_ne h, hr.counts r, List.count_cons_of_ne (Ne.symm h)]
  by_cases hlast : B.refs w.heap p = 1
  · -- the last reference: the items and the storage go
    obtain ⟨w₂, heq, hheap₂, hvec₂, hmem₂, hraw₂⟩ := doDestroy_of_holds hx₁
    have hzero : B.refs heap p = 0 := by rw [hrefs, Function.update_self]; omega
    obtain ⟨hdr, hds⟩ := B.dealloc_eq hzero
    have hnone := hr.others_eq_empty List.mem_cons_self hlast
    refine ⟨{ w₂ with heap := B.dealloc heap p }, ?_, ⟨?_, ?_, ?_, ?_⟩, hvec₂, ?_, ?_⟩
    · simp only [releaseStorage, hv, hbefore, hlast, if_true, hh]
      have hn₁ : w₁.size v = xs.length := hn
      simp only [← hn₁] at heq
      simp only [w₁] at heq hheap₂
      rw [heq]
      simp [hheap₂, bind, Except.bind, pure, Except.pure]
    · intro r
      simp only [others, hvec₂, hdr]
      exact hcounts r
    · intro r
      simp only [hdr, hds]
      by_cases h : r = p
      · subst h
        simp [hzero]
      · rw [Function.update_of_ne h, hsize, hrefs, Function.update_of_ne h]
        exact hr.freed r
    · intro ht r hr'
      by_cases h : r = p
      · exact h ▸ hraw₂ ht
      · simp only [hds, Function.update_of_ne h, hsize] at hr'
        rw [hmem₂ r h]
        exact hr.raw ht r hr'
    · intro u hu
      refine (hr.kept u hu).congr (by rw [hvec₂]) fun r hr' => ?_
      have h := ne_of_others_eq_empty hnone hu hr'
      exact ⟨hmem₂ r h, by simp [hds, h, hsize]⟩
    · intro r h
      have h : r ≠ p := h.resolve_right (by omega)
      exact ⟨hmem₂ r h, by simp [hds, h, hsize]⟩
    · intro r h
      simp [hdr, hrefs, h]
  · refine ⟨w₁, ?_, ⟨hcounts, ?_, ?_, ?_⟩, rfl, fun r _ => ⟨rfl, by simp [w₁, hsize]⟩, ?_⟩
    · simp [releaseStorage, hv, hbefore, hlast, hh, w₁, pure, Except.pure]
    · intro r
      simp only [w₁, hsize, hrefs]
      by_cases h : r = p
      · subst h
        rw [Function.update_self, hr.freed r]
        omega
      · rw [Function.update_of_ne h]
        exact hr.freed r
    · intro ht r hr'
      simp only [w₁, hsize] at hr'
      exact hr.raw ht r hr'
    · intro u hu
      exact (hr.kept u hu).congr rfl fun r _ => ⟨rfl, by simp [w₁, hsize]⟩
    · intro r h
      simp [w₁, hrefs, h]

end World

end Vector
end Huashan
