import Huashan.Vector.Storage

/-!
# Huashan.Vector.Growth

`editArrayImpl`, `_grow` and `_shrink` on a vector that shares its buffer with others or not:
`editArrayImpl_spec`, `grow_spec` and `shrink_spec`. What `_grow` leaves is a `Gap` between the
items in front and those behind, in a buffer that the vector has alone. `growRefused` and
`shrinkRefused` say when there is no memory for what they ask for; nothing happens then.
-/

namespace Huashan
namespace Vector
namespace World

variable {H P ν α : Type} [DecidableEq P] [DecidableEq ν] [Fintype ν]
variable {B : SharedBuffer H P} {T : ItemType α} {w w' : World H P ν α}
variable {u v : ν} {p q : P} {hand : List P} {abs : ν → List α} {xs ys : List α}

/-! ## Refusals -/

section Refusals

variable (B : SharedBuffer H P) (T : ItemType α) (w : World H P ν α)

/-- There is no memory for `n` items: for resizing the buffer when the gap is behind all items and
these are trivial, and else for new storage. -/
def refuses (v : ν) (last : Bool) (n : Nat) : Bool :=
  match (w.vec v).mStorage, last && T.trivialCopy && T.trivialDtor with
  | some p, true => (B.editResize w.heap p (n * T.itemSize)).2.isNone
  | _, _ => (B.alloc w.heap (n * T.itemSize)).2.isNone

/-- Of the storage that `_grow` asks for, if it does. -/
def growRefused (v : ν) (pos amount : Nat) : Bool :=
  let newSize := w.size v + amount
  w.capacity B T v < newSize &&
    w.refuses B T v (w.size v = pos) (max kMinVectorCapacity (newSize + newSize / 2 + 1))

/-- Of the storage that `_shrink` asks for, if it does. -/
def shrinkRefused (v : ν) (pos amount : Nat) : Bool :=
  let newSize := w.size v - amount
  newSize < w.capacity B T v / 2 &&
    w.refuses B T v (pos = newSize) (max kMinVectorCapacity (newSize * 2))

end Refusals

/-! ## Items in storage -/

section Items

omit [DecidableEq ν] [Fintype ν]

theorem Holds.readable (hx : w.Holds B T p xs) {k n : Nat} (hn : k + n ≤ xs.length) :
    w.Readable B T (.storage p k) n := by
  refine ⟨by have := hx.room; omega, .inr fun i hi => ?_⟩
  exact hx.filled.isObject (by omega) (by omega)

theorem Holds.items_eq (hx : w.Holds B T p xs) {k n : Nat} (hn : k + n ≤ xs.length) :
    w.items (.storage p k) n = (xs.drop k).take n := by
  have hfilled := (hx.filled.drop (n := k) (by omega)).take n
  have := hfilled.read_eq
  rw [List.length_take_of_le (by simp; omega)] at this
  simpa [items] using this

omit [DecidableEq P] in
theorem vacant_of_rawFrom {k n : Nat} (h : T.trivialDtor = false → (w.mem q).RawFrom k) :
    w.Vacant T q k n := by
  by_cases ht : T.trivialDtor = true
  · exact .inl ht
  · exact .inr fun i _ => h (by simpa using ht) _ (by omega)

theorem setMem_self : w.setMem q (w.mem q) = w := by simp [World.setMem]

theorem setMem_setMem {b b' : Block α} : (w.setMem q b).setMem q b' = w.setMem q b' := by
  simp [World.setMem]

/-- Copies of items that can be read, in storage that has no objects. -/
theorem doCopy_eq {src : Source P α} {k n : Nat} (hroom : k + n ≤ w.slots B T q)
    (hread : w.Readable B T src n) (hapart : Apart q k n src n) (hvacant : w.Vacant T q k n) :
    w.doCopy B T q k src n = .ok (w.setMem q ((w.mem q).build k (w.items src n))) := by
  rw [doCopy, if_pos ⟨hroom, hread, hapart, hvacant⟩]

/-- A copy that is left out when there is nothing to copy. -/
theorem doCopy_if {c : Prop} [Decidable c] {k j n : Nat} (hx : w.Holds B T p xs) (hpq : p ≠ q)
    (hn : j + n ≤ xs.length) (hroom : k + n ≤ w.slots B T q) (hvacant : w.Vacant T q k n)
    (hc : ¬ c → n = 0) :
    (if c then w.doCopy B T q k (.storage p j) n else .ok w) =
      .ok (w.setMem q ((w.mem q).build k ((xs.drop j).take n))) := by
  by_cases h : c
  · rw [if_pos h, doCopy_eq hroom (hx.readable hn) (fun h => absurd h hpq) hvacant, hx.items_eq hn]
  · rw [if_neg h, hc h, List.take_zero, Block.build_nil, setMem_self]

/-- What is in front and what is behind, in new storage. -/
theorem copyAround {c : Prop} [Decidable c] (pos j k n : Nat) (hx : w.Holds B T p xs)
    (hpq : p ≠ q) (hpos : pos ≤ k) (hp : pos ≤ xs.length) (hn : j + n ≤ xs.length)
    (hroom : k + n ≤ w.slots B T q) (hraw : T.trivialDtor = false → (w.mem q).RawFrom 0)
    (hc : ¬ c → n = 0) :
    ∃ b, (do
        let w ← (if pos ≠ 0 then w.doCopy B T q 0 (.storage p 0) pos else .ok w)
        if c then w.doCopy B T q k (.storage p j) n else .ok w) = .ok (w.setMem q b) ∧
      b.Filled 0 (xs.take pos) ∧ b.Filled k ((xs.drop j).take n) ∧
      (T.trivialDtor = false → b.RawFrom (k + n) ∧
        ∀ i, pos ≤ i → i < k → (b i).isObject = false) := by
  let b₁ := (w.mem q).build 0 (xs.take pos)
  have hlen : ((xs.drop j).take n).length = n := List.length_take_of_le (by simp; omega)
  have hraw₁ : T.trivialDtor = false → b₁.RawFrom pos := fun ht =>
    ((hraw ht).mono (Nat.zero_le _)).build (by simp)
  have hfirst := doCopy_if (c := pos ≠ 0) (k := 0) (j := 0) (n := pos) hx hpq (by omega) (by omega)
    (vacant_of_rawFrom hraw) (by omega)
  rw [List.drop_zero] at hfirst
  have hx₁ : (w.setMem q b₁).Holds B T p xs := hx.congr (setMem_mem_of_ne hpq) rfl
  have hvacant₁ : (w.setMem q b₁).Vacant T q k n :=
    vacant_of_rawFrom fun ht => by simpa using (hraw₁ ht).mono hpos
  have hsecond := doCopy_if (c := c) hx₁ hpq hn hroom hvacant₁ hc
  refine ⟨b₁.build k ((xs.drop j).take n), ?_, ?_, Block.filled_build, fun ht => ⟨?_, ?_⟩⟩
  · rw [hfirst]
    simp only [bind, Except.bind]
    rw [hsecond, setMem_mem, setMem_setMem]
  · have hfilled : b₁.Filled 0 (xs.take pos) := Block.filled_build
    exact hfilled.build (.inl (by simp; omega))
  · exact ((hraw₁ ht).mono (by omega)).build (by omega)
  · intro i hi hk
    rw [Block.build_of_lt hk]
    exact hraw₁ ht i hi

/-- Items are moved over slots that have no objects. -/
theorem doMove_if {c : Prop} [Decidable c] {j k n : Nat} (hx : (w.mem q).Filled j xs)
    (hn : n = xs.length) (hsource : j + n ≤ w.slots B T q) (hroom : k + n ≤ w.slots B T q)
    (hvacant : T.trivialDtor = true ∨ ∀ i < n, j ≤ k + i ∧ k + i < j + n ∨
      (w.mem q (k + i)).isObject = false) (hc : ¬ c → n = 0) :
    (if c then w.doMove B T q k j n else .ok w) =
      .ok (w.setMem q (((w.mem q).destroy j n).build k xs)) := by
  subst hn
  by_cases h : c
  · have hread : w.Readable B T (.storage q j) xs.length :=
      ⟨hsource, .inr fun i hi => hx.isObject (by omega) (by omega)⟩
    rw [if_pos h, doMove, if_pos ⟨hroom, hread, hvacant⟩, hx.read_eq]
  · have hxs : xs = [] := List.eq_nil_of_length_eq_zero (hc h)
    subst hxs
    rw [if_neg h, List.length_nil, Block.build_nil, Block.destroy_zero, setMem_self]

theorem itemLocation_eq {pos : Nat} (hv : (w.vec v).mStorage = some q) :
    w.itemLocation B T v pos = if pos < w.slots B T q then some (q, pos) else none := by
  simp [itemLocation, capacity, hv]

theorem SameBuffers.sharedSame (hs : w.SameBuffers B w') : w.SharedSame B w' :=
  fun _ _ => ⟨by rw [hs.mem], by rw [hs.size]⟩

/-- What is in storage with a gap. -/
def Spread (T : ItemType α) (b : Block α) (xs : List α) (pos amount : Nat) : Prop :=
  b.Filled 0 (xs.take pos) ∧ b.Filled (pos + amount) (xs.drop pos) ∧
    (T.trivialDtor = false → b.RawFrom (xs.length + amount) ∧
      ∀ i, pos ≤ i → i < pos + amount → (b i).isObject = false)

/-- The items from `pos` on are moved back in storage that the vector has alone. -/
theorem spread_of_holds {pos amount : Nat} (hx : w.Holds B T q xs) (hpos : pos ≤ xs.length)
    (hroom : xs.length + amount ≤ w.slots B T q) :
    ∃ b, (if pos ≠ xs.length then
        w.doMoveForward B T q (pos + amount) pos (xs.length - pos) else .ok w) =
        .ok (w.setMem q b) ∧ Spread T b xs pos amount := by
  have hfilled : (w.mem q).Filled pos (xs.drop pos) := by simpa using hx.filled.drop hpos
  have hmove := doMove_if (B := B) (T := T) (c := pos ≠ xs.length) (j := pos) (k := pos + amount)
    (n := xs.length - pos) hfilled (by simp) (by omega) (by omega) (by
      by_cases ht : T.trivialDtor = true
      · exact .inl ht
      · refine .inr fun i hi => ?_
        by_cases hin : pos + amount + i < xs.length
        · exact .inl ⟨by omega, by omega⟩
        · exact .inr (hx.raw (by simpa using ht) _ (by omega))) (by omega)
  refine ⟨_, by rw [← hmove]; simp [doMoveForward], ?_, Block.filled_build, fun ht => ⟨?_, ?_⟩⟩
  · have hdestroy := (hx.filled.take pos).destroy (j := pos) (n := xs.length - pos)
      (.inl (by simp))
    exact hdestroy.build (.inl (by simp))
  · exact ((hx.raw ht).mono (by omega)).destroy.build (by simp; omega)
  · intro i hi hk
    rw [Block.build_of_lt hk]
    have hraw : (w.mem q).RawFrom (pos + (xs.length - pos)) := (hx.raw ht).mono (by omega)
    exact Block.rawFrom_destroy hraw i hi

/-- The items behind the gap are moved to those in front. -/
theorem Spread.close {pos amount : Nat} (h : Spread T (w.mem q) xs pos amount)
    (hpos : pos ≤ xs.length) (hroom : xs.length + amount ≤ w.slots B T q) :
    ∃ b, (if pos ≠ xs.length then
        w.doMoveBackward B T q pos (pos + amount) (xs.length - pos) else .ok w) =
        .ok (w.setMem q b) ∧ b.Filled 0 xs ∧ (T.trivialDtor = false → b.RawFrom xs.length) := by
  obtain ⟨hfront, hback, hraw⟩ := h
  have hmove := doMove_if (B := B) (T := T) (c := pos ≠ xs.length) (j := pos + amount) (k := pos)
    (n := xs.length - pos) hback (by simp) (by omega) (by omega) (by
      by_cases ht : T.trivialDtor = true
      · exact .inl ht
      · refine .inr fun i hi => ?_
        by_cases hin : pos + i < pos + amount
        · exact .inr ((hraw (by simpa using ht)).2 _ (by omega) hin)
        · exact .inl ⟨by omega, by omega⟩) (by omega)
  refine ⟨_, by rw [← hmove]; simp [doMoveBackward], ?_, fun ht => ?_⟩
  · generalize hb : ((w.mem q).destroy (pos + amount) (xs.length - pos)).build pos
      (xs.drop pos) = b
    have hfront' : b.Filled 0 (xs.take pos) := by
      rw [← hb]
      exact (hfront.destroy (.inl (by simp))).build (.inl (by simp))
    have hback' : b.Filled pos (xs.drop pos) := by
      rw [← hb]
      exact Block.filled_build
    rw [← List.take_append_drop pos xs, Block.filled_append]
    exact ⟨hfront', by simpa [hpos] using hback'⟩
  · obtain ⟨hbeyond, hbetween⟩ := hraw ht
    intro i hi
    rw [Block.build_of_le (by simp; omega)]
    by_cases hlt : i < pos + amount
    · rw [Block.destroy_of_lt hlt]
      exact hbetween i (by omega) hlt
    · have hraw' : (w.mem q).RawFrom (pos + amount + (xs.length - pos)) := hbeyond.mono (by omega)
      exact Block.rawFrom_destroy hraw' i (by omega)

/-- The items from `pos` on that go are destroyed. -/
theorem doDestroy_spread {pos amount : Nat} (hx : w.Holds B T q xs)
    (hpos : pos + amount ≤ xs.length) :
    ∃ b, w.doDestroy B T q pos amount = .ok (w.setMem q b) ∧
      Spread T b (xs.take pos ++ xs.drop (pos + amount)) pos amount := by
  have htake : (xs.take pos ++ xs.drop (pos + amount)).take pos = xs.take pos := by
    simp [List.take_append, List.take_take]
    omega
  have hdrop : (xs.take pos ++ xs.drop (pos + amount)).drop pos = xs.drop (pos + amount) := by
    simp [List.drop_append]
    omega
  have hlen : (xs.take pos ++ xs.drop (pos + amount)).length + amount = xs.length := by
    simp
    omega
  have hback : (w.mem q).Filled (pos + amount) (xs.drop (pos + amount)) := by
    simpa using hx.filled.drop hpos
  by_cases ht : T.trivialDtor = true
  · refine ⟨w.mem q, by rw [setMem_self, doDestroy, if_pos ht], ?_, ?_, fun hf => ?_⟩
    · rw [htake]
      exact hx.filled.take pos
    · rw [hdrop]
      exact hback
    · rw [ht] at hf
      cases hf
  · have hall : w.AllObjects q pos amount := fun i hi =>
      hx.filled.isObject (by omega) (by omega)
    have hroom := hx.room
    refine ⟨(w.mem q).destroy pos amount, ?_, ?_, ?_, fun hf => ⟨?_, fun i hi hk => ?_⟩⟩
    · rw [doDestroy, if_neg ht, if_pos ⟨by omega, hall⟩]
    · rw [htake]
      exact (hx.filled.take pos).destroy (.inl (by simp))
    · rw [hdrop]
      exact hback.destroy (.inr le_rfl)
    · rw [hlen]
      exact (hx.raw hf).destroy
    · simp only [Block.destroy]
      rw [if_pos ⟨hi, hk⟩]
      rfl

end Items

/-! ## New storage -/

/-- `heap` is the heap of `w` with a new buffer `q`. -/
structure Fresh (B : SharedBuffer H P) (T : ItemType α) (w : World H P ν α) (heap : H) (q : P)
    (bytes : Nat) : Prop where
  absent : B.refs w.heap q = 0
  refs : B.refs heap = Function.update (B.refs w.heap) q 1
  size : B.size heap = Function.update (B.size w.heap) q (some bytes)
  raw : T.trivialDtor = false → (w.mem q).RawFrom 0

theorem Rest.notMem_hand (h : w.Rest B T v hand abs) (hq : B.refs w.heap q = 0) : q ∉ hand := by
  intro hmem
  have := h.counts q
  have := List.count_pos_iff.mpr hmem
  omega

theorem Rest.fresh (h : w.Rest B T v hand abs) {heap : H} {bytes : Nat}
    (ha : B.alloc w.heap bytes = (heap, some q)) : w.Fresh B T heap q bytes := by
  obtain ⟨h0, hnone, hrefs, hsize⟩ := B.alloc_some ha
  exact ⟨h0, hrefs, hsize, fun ht => h.raw ht q hnone⟩

/-- Nobody has a buffer that is not there. -/
theorem Rest.storage_ne (h : w.Rest B T v hand abs) (hq : B.refs w.heap q = 0) (hu : u ≠ v)
    (hp : (w.vec u).mStorage = some p) : p ≠ q := by
  have hcount := h.counts q
  have hnone : w.others v q = ∅ := by
    rw [← Finset.card_eq_zero]
    omega
  exact ne_of_others_eq_empty hnone hu hp

theorem Fresh.rest {heap : H} {bytes : Nat} (hf : w.Fresh B T heap q bytes)
    (h : w.Rest B T v hand abs) :
    Rest B T { w with heap := heap } v (hand ++ [q]) abs where
  counts r := by
    have hothers : others { w with heap := heap } v r = w.others v r := rfl
    simp only [hf.refs, hothers, List.count_append]
    by_cases hr : r = q
    · subst hr
      have := h.counts r
      have := hf.absent
      simp
      omega
    · rw [Function.update_of_ne hr, h.counts r]
      simp [Ne.symm hr]
  freed r := by
    simp only [hf.refs, hf.size]
    by_cases hr : r = q
    · subst hr
      simp
    · rw [Function.update_of_ne hr, Function.update_of_ne hr]
      exact h.freed r
  raw ht r hr := by
    by_cases hrq : r = q
    · simp [hf.size, hrq] at hr
    · simp only [hf.size, Function.update_of_ne hrq] at hr
      exact h.raw ht r hr
  kept u hu := (h.kept u hu).congr rfl fun r hr => by
    refine ⟨rfl, ?_⟩
    simp only [hf.size]
    rw [Function.update_of_ne (h.storage_ne hf.absent hu hr)]

omit [DecidableEq ν] [Fintype ν] in
theorem Fresh.holds {heap : H} {bytes : Nat} (hf : w.Fresh B T heap q bytes) (hp : p ≠ q)
    (hx : w.Holds B T p xs) : Holds B T { w with heap := heap } p xs :=
  hx.congr rfl (by simp [hf.size, hp])

/-- The vector with what `copy` builds in new storage, or nothing has happened. -/
theorem replaceStorage_spec (bytes : Nat)
    (copy : World H P ν α → P → Except Fault (World H P ν α)) (built : Block α → Prop)
    (hr : w.Rest B T v (w.vec v).mStorage.toList abs) (hk : w.Keeps B T v xs)
    (hcopy : ∀ heap q, w.Fresh B T heap q bytes → (w.vec v).mStorage ≠ some q →
      ∃ b, copy { w with heap := heap } q = .ok (setMem { w with heap := heap } q b) ∧ built b) :
    ∃ w' o, w.replaceStorage B T v bytes copy = .ok (w', o) ∧
      o.isNone = (B.alloc w.heap bytes).2.isNone ∧
      match o with
      | none => w.SameBuffers B w'
      | some q => w'.Owns B T v q abs ∧ w'.size v = w.size v ∧
          B.size w'.heap q = some bytes ∧ built (w'.mem q) ∧ (∀ u, u ≠ v → w'.vec u = w.vec u) ∧
          w.SharedSame B w' ∧ B.refs w.heap q = 0 := by
  cases ha : B.alloc w.heap bytes with
  | mk heap o =>
    cases o with
    | none =>
      obtain ⟨hrefs, hsize⟩ := B.alloc_none ha
      exact ⟨{ w with heap := heap }, none, by simp [replaceStorage, ha], rfl, rfl, rfl, hrefs,
        hsize⟩
    | some q =>
      have hf := hr.fresh ha
      have hstorage : (w.vec v).mStorage ≠ some q := by
        intro hs
        have := hr.notMem_hand hf.absent
        simp [hs] at this
      obtain ⟨b, hcopied, hb⟩ := hcopy heap q hf hstorage
      let w₂ : World H P ν α := setMem { w with heap := heap } q b
      have hone : B.refs w₂.heap q = 1 := by simp [w₂, hf.refs]
      have hr₂ : w₂.Rest B T v ((w.vec v).mStorage.toList ++ [q]) abs :=
        (hf.rest hr).setMem (by simp) hone b
      have hsize₂ : B.size w₂.heap q = some bytes := by simp [w₂, hf.size]
      -- the old buffer, if there is one, loses a reference
      have hreleased : ∃ w₃, w₂.releaseStorage B T v = .ok w₃ ∧ w₃.Rest B T v [q] abs ∧
          w₃.vec = w.vec ∧ w₃.mem q = b ∧ B.size w₃.heap q = some bytes ∧
          B.refs w₃.heap q = 1 ∧ w.SharedSame B w₃ := by
        have hsame₂ : w.SharedSame B w₂ := by
          intro r hr1
          have hrq : r ≠ q := by
            rintro rfl
            have := hf.absent
            omega
          exact ⟨setMem_mem_of_ne hrq, by simp [w₂, hf.size, hrq]⟩
        cases hs : (w.vec v).mStorage with
        | none =>
          refine ⟨w₂, by simp [releaseStorage, w₂, hs], ?_, rfl, by simp [w₂], hsize₂, hone, hsame₂⟩
          simpa [hs] using hr₂
        | some p =>
          have hpq : p ≠ q := fun h => hstorage (h ▸ hs)
          have hx : w.Holds B T p xs := by simpa [hs] using hk.2
          have hx₂ : w₂.Holds B T p xs :=
            (hf.holds hpq hx).congr (setMem_mem_of_ne hpq) rfl
          have hr₂' : w₂.Rest B T v (p :: [q]) abs := by simpa [hs] using hr₂
          obtain ⟨w₃, heq, hr₃, hvec₃, hsame₃, hrefs₃⟩ := releaseStorage_spec hr₂' hs hk.1 hx₂
          obtain ⟨hm, hz⟩ := hsame₃ q (.inl (Ne.symm hpq))
          refine ⟨w₃, heq, hr₃, hvec₃, by simp [hm, w₂], by rw [hz, hsize₂],
            by rw [hrefs₃ q (Ne.symm hpq), hone], fun r hr1 => ?_⟩
          have hr1' : r ≠ p ∨ 1 < B.refs w₂.heap p := by
            by_cases hrp : r = p
            · subst hrp
              exact .inr (by simpa [w₂, hf.refs, hpq] using hr1)
            · exact .inl hrp
          obtain ⟨hm, hz⟩ := hsame₃ r hr1'
          rw [hm, hz]
          exact hsame₂ r hr1
      obtain ⟨w₃, heq, hr₃, hvec₃, hmem₃, hsize₃, hrefs₃, hsame₃⟩ := hreleased
      refine ⟨w₃.setStorage v (some q), some q, ?_, rfl, ⟨hr₃.setVec _, by simp, hrefs₃⟩, ?_,
        hsize₃, ?_, fun u hu => ?_, hsame₃, hf.absent⟩
      · simp only [replaceStorage, ha, hcopied, bind, Except.bind]
        rw [show setMem { w with heap := heap } q b = w₂ from rfl, heq]
        rfl
      · simp [size, hvec₃]
      · rw [setStorage_mem, hmem₃]
        exact hb
      · rw [setStorage, setVec_vec_of_ne hu, hvec₃]

/-- The buffer is there for the vector alone, with the items it had. -/
theorem editArrayImpl_spec (hr : w.Rest B T v (w.vec v).mStorage.toList abs)
    (hk : w.Keeps B T v xs) :
    Safely (w.editArrayImpl B T v) fun (w', o) =>
      (∀ u, u ≠ v → w'.vec u = w.vec u) ∧ w'.size v = w.size v ∧ w.SharedSame B w' ∧
      match o with
      | none => w' = w ∧ (w.vec v).mStorage = none
      | some q => w'.Owns B T v q abs ∧ w'.Holds B T q xs ∧
          w'.slots B T q = w.capacity B T v ∧ B.refs w.heap q ≤ 1 ∧
          (B.refs w.heap q = 1 → (w.vec v).mStorage = some q → w' = w) := by
  cases hs : (w.vec v).mStorage with
  | none =>
    rw [show w.editArrayImpl B T v = .ok (w, none) by simp [editArrayImpl, hs]]
    exact ⟨fun _ _ => rfl, rfl, fun _ _ => ⟨rfl, rfl⟩, rfl, rfl⟩
  | some p =>
    have hx : w.Holds B T p xs := by simpa [hs] using hk.2
    have hcount := hr.counts p
    simp only [hs, Option.toList_some, List.count_cons_self] at hcount
    have hpos : 0 < B.refs w.heap p := by omega
    by_cases hsole : B.refs w.heap p = 1
    · refine .of_eq (x := (w, some p)) ?_ ?_
      · simp [editArrayImpl, hs, B.attemptEdit_eq hpos, hsole]
      · refine ⟨fun _ _ => rfl, rfl, fun _ _ => ⟨rfl, rfl⟩, ⟨by simpa [hs] using hr, hs, hsole⟩,
          hx, ?_, hsole.le, fun _ _ => rfl⟩
        simp [capacity, hs]
    · -- the buffer is shared: the vector gets a copy of its own
      obtain ⟨bytes, hbytes⟩ : ∃ n, B.size w.heap p = some n := by
        rw [← Option.ne_none_iff_exists']
        exact fun h => by have := (hr.freed p).mp h; omega
      have hn : w.size v = xs.length := hk.1
      have hslots : xs.length ≤ bytes / T.itemSize := by simpa [slots, hbytes] using hx.room
      obtain ⟨w₁, o, heq, -, hpost⟩ := replaceStorage_spec (B := B) (T := T) bytes
        (fun w q => w.doCopy B T q 0 (.storage p 0) (w.size v))
        (fun b => b.Filled 0 xs ∧ (T.trivialDtor = false → b.RawFrom xs.length)) hr hk (by
          intro heap q hf hq
          have hpq : p ≠ q := fun h => hq (h ▸ hs)
          have hx₁ := hf.holds hpq hx
          have hroom : 0 + xs.length ≤ slots B T { w with heap := heap } q := by
            simpa [slots, hf.size] using hslots
          have hlen : size { w with heap := heap } v = xs.length := hn
          refine ⟨_, by
            rw [hlen]
            exact doCopy_eq hroom (hx₁.readable (by omega)) (fun h => absurd h hpq)
              (vacant_of_rawFrom hf.raw), ?_, fun ht => ?_⟩
          · rw [hx₁.items_eq (by omega)]
            have : ((w.mem q).build 0 xs).Filled 0 xs := Block.filled_build
            simpa using this
          · refine ((hf.raw ht).mono (Nat.zero_le _)).build ?_
            rw [hx₁.items_eq (by omega)]
            simp)
      have hedit : B.attemptEdit w.heap p = none := by rw [B.attemptEdit_eq hpos, if_neg hsole]
      simp only [editArrayImpl, hs, hedit, hbytes, Option.getD_some]
      rw [heq]
      cases o with
      | none => rfl
      | some q =>
        obtain ⟨howns, hsize, hq, ⟨hfilled, hraw⟩, hframe, hsame, h0⟩ := hpost
        refine ⟨hframe, hsize, hsame, howns, ⟨hfilled, ?_, hraw⟩, ?_, by omega, fun h1 _ => ?_⟩
        · simpa [slots, hq] using hslots
        · simp [capacity, hs, slots, hq, hbytes]
        · omega

/-! ## Room for new items -/

/-- The vector alone has `q`, with `xs` around `amount` slots from `pos` on. -/
structure Gap (B : SharedBuffer H P) (T : ItemType α) (w : World H P ν α) (v : ν) (q : P)
    (abs : ν → List α) (xs : List α) (pos amount : Nat) : Prop where
  owns : w.Owns B T v q abs
  count : w.size v = xs.length + amount
  front : (w.mem q).Filled 0 (xs.take pos)
  back : (w.mem q).Filled (pos + amount) (xs.drop pos)
  room : xs.length + amount ≤ w.slots B T q
  raw : T.trivialDtor = false → (w.mem q).RawFrom (xs.length + amount)
  vacant : w.Vacant T q pos amount

/-- New items in the gap. -/
theorem Gap.fill_holds {pos : Nat} (h : w.Gap B T v q abs xs pos ys.length)
    (hpos : pos ≤ xs.length) :
    (w.setMem q ((w.mem q).build pos ys)).Holds B T q (xs.take pos ++ ys ++ xs.drop pos) := by
  have hfront := h.front
  have hback := h.back
  refine ⟨?_, ?_, fun ht => ?_⟩
  · rw [setMem_mem, Block.filled_append, Block.filled_append]
    refine ⟨⟨hfront.build (.inl (by simp)), ?_⟩, ?_⟩
    · have hnew : ((w.mem q).build pos ys).Filled pos ys := Block.filled_build
      simpa [hpos] using hnew
    · have hkept : ((w.mem q).build pos ys).Filled (pos + ys.length) (xs.drop pos) :=
        hback.build (.inr le_rfl)
      simpa [hpos] using hkept
  · have := h.room
    simp [slots_setMem]
    omega
  · rw [setMem_mem]
    have hlen : (xs.take pos ++ ys ++ xs.drop pos).length = xs.length + ys.length := by
      simp
      omega
    rw [hlen]
    exact (h.raw ht).build (by omega)

/-- What the vector alone has in storage is what it has. -/
theorem Owns.refines_of_holds (h : w.Owns B T v q abs) (hx : w.Holds B T q xs)
    (hn : w.size v = xs.length) : w.Refines B T (Function.update abs v xs) := by
  refine Rest.refines (by rw [h.storage]; exact h.rest) ⟨hn, ?_⟩
  rw [h.storage]
  exact hx

theorem Gap.fill {pos : Nat} (h : w.Gap B T v q abs xs pos ys.length) (hpos : pos ≤ xs.length) :
    (w.setMem q ((w.mem q).build pos ys)).Refines B T
      (Function.update abs v (xs.take pos ++ ys ++ xs.drop pos)) := by
  refine (h.owns.setMem _).refines_of_holds (h.fill_holds hpos) ?_
  have hcount := h.count
  simp [size] at hcount ⊢
  omega

theorem Rest.resized {heap : H} {bytes : Nat} (hr : w.Rest B T v [q] abs)
    (ht : T.trivialDtor = true) (hone : B.refs w.heap q = 1)
    (hrefs : B.refs heap = B.refs w.heap)
    (hsize : B.size heap = Function.update (B.size w.heap) q (some bytes)) :
    Rest B T { w with heap := heap } v [q] abs := by
  have hnone := hr.others_eq_empty List.mem_cons_self hone
  refine ⟨fun r => ?_, fun r => ?_, fun hf => ?_, fun u hu => ?_⟩
  · simp only [hrefs]
    exact hr.counts r
  · simp only [hrefs, hsize]
    by_cases h : r = q
    · subst h
      simp [hone]
    · rw [Function.update_of_ne h]
      exact hr.freed r
  · rw [ht] at hf
    cases hf
  · refine (hr.kept u hu).congr rfl fun r hr' => ⟨rfl, ?_⟩
    simp only [hsize, Function.update_of_ne (ne_of_others_eq_empty hnone hu hr')]

/-- `heap` is the heap of `w` after an owner of `p` has got the new buffer `q` for it. -/
structure Moved (B : SharedBuffer H P) (w : World H P ν α) (heap : H) (p q : P) (bytes : Nat) :
    Prop where
  ne : q ≠ p
  absent : B.refs w.heap q = 0
  refs : B.refs heap =
    Function.update (Function.update (B.refs w.heap) p (B.refs w.heap p - 1)) q 1
  size : B.size heap = Function.update
    (if B.refs w.heap p = 1 then Function.update (B.size w.heap) p none else B.size w.heap) q
    (some bytes)

section Moved

variable {heap : H} {bytes : Nat}

omit [DecidableEq ν] [Fintype ν] in
/-- The buffers that somebody else has keep their sizes. -/
theorem Moved.size_eq (hm : w.Moved B heap p q bytes) {r : P} (hrq : r ≠ q)
    (hrp : r ≠ p ∨ 1 < B.refs w.heap p) : B.size heap r = B.size w.heap r := by
  rw [hm.size, Function.update_of_ne hrq]
  split
  · rename_i hone
    exact Function.update_of_ne (hrp.resolve_right (by omega)) _ _
  · rfl

theorem Moved.counts (hm : w.Moved B heap p q bytes) (hr : w.Rest B T v [p] abs) (r : P) :
    B.refs heap r = (w.others v r).card + [q].count r := by
  have hcount := hr.counts r
  rw [hm.refs]
  by_cases h : r = q
  · subst h
    rw [List.count_cons_of_ne (Ne.symm hm.ne), hm.absent] at hcount
    rw [Function.update_self, List.count_singleton_self]
    omega
  · rw [Function.update_of_ne h]
    by_cases hp : r = p
    · subst hp
      rw [List.count_cons_self, List.count_nil] at hcount
      simp [Ne.symm h]
      omega
    · rw [Function.update_of_ne hp, hcount]
      simp [Ne.symm h, Ne.symm hp]

theorem Moved.freed (hm : w.Moved B heap p q bytes) (hr : w.Rest B T v [p] abs) (r : P) :
    B.size heap r = none ↔ B.refs heap r = 0 := by
  rw [hm.refs, hm.size]
  by_cases h : r = q
  · subst h
    simp
  · rw [Function.update_of_ne h, Function.update_of_ne h]
    by_cases hp : r = p
    · subst hp
      have hfreed := hr.freed r
      have hcount := hr.counts r
      rw [List.count_cons_self, List.count_nil] at hcount
      split
      · rename_i hone
        simp [hone]
      · simp [hfreed]
        omega
    · rw [Function.update_of_ne hp]
      split
      · rw [Function.update_of_ne hp]
        exact hr.freed r
      · exact hr.freed r

theorem Moved.rest (hm : w.Moved B heap p q bytes) (hr : w.Rest B T v [p] abs)
    (ht : T.trivialDtor = true) (b : Block α) :
    Rest B T (setMem { w with heap := heap } q b) v [q] abs := by
  refine ⟨hm.counts hr, hm.freed hr, fun hf => ?_, fun u hu => ?_⟩
  · rw [ht] at hf
    cases hf
  · refine (hr.kept u hu).congr rfl fun r hr' => ?_
    have hrq := hr.storage_ne hm.absent hu hr'
    refine ⟨setMem_mem_of_ne hrq, hm.size_eq hrq ?_⟩
    by_cases hrp : r = p
    · have hcount := hr.counts p
      rw [List.count_cons_self] at hcount
      have hu : u ∈ w.others v p := by simp [others, hu, hr', hrp]
      have hcard := Finset.card_pos.mpr ⟨u, hu⟩
      exact .inr (by omega)
    · exact .inl hrp

end Moved

/-- The only owner of trivial items goes on with as many as have room, and so does one of
several with storage of its own. -/
theorem editResize_spec {n m : Nat} (hr : w.Rest B T v [p] abs)
    (hv : (w.vec v).mStorage = some p) (hx : w.Holds B T p xs) (ht : T.trivialDtor = true)
    (hm : m ≤ n) :
    ∃ w' o, w.editResize B T v p (n * T.itemSize) = (w', o) ∧
      o.isNone = (B.editResize w.heap p (n * T.itemSize)).2.isNone ∧
      match o with
      | none => w.SameBuffers B w'
      | some q => w'.Owns B T v q abs ∧ w'.size v = w.size v ∧ w'.slots B T q = n ∧
          (w'.mem q).Filled 0 (xs.take m) ∧ (∀ u, u ≠ v → w'.vec u = w.vec u) ∧
          w.SharedSame B w' ∧ B.refs w.heap q ≤ 1 := by
  have hcount := hr.counts p
  rw [List.count_cons_self, List.count_nil] at hcount
  have hpos : 0 < B.refs w.heap p := by omega
  cases he : B.editResize w.heap p (n * T.itemSize) with
  | mk heap o =>
    cases o with
    | none =>
      obtain ⟨hrefs, hsize⟩ := B.editResize_none hpos he
      exact ⟨{ w with heap := heap }, none, by simp [editResize, he], rfl, rfl, rfl, hrefs, hsize⟩
    | some q =>
      refine ⟨(w.editResize B T v p (n * T.itemSize)).1, some q, by simp [editResize, he], rfl, ?_⟩
      simp only [editResize, he]
      obtain ⟨rfl, hone, hrefs, hsize⟩ | ⟨hqp, habs, -, hrefs, hsize⟩ := B.editResize_some hpos he
      · -- resized where it is
        rw [if_pos rfl]
        have hr₁ := hr.resized ht hone hrefs hsize
        refine ⟨⟨hr₁.setVec _, by simp, by simp [hrefs, hone]⟩, by simp [size],
          slots_eq (by simp [hsize]), hx.filled.take m, fun u hu => setVec_vec_of_ne hu,
          fun r h1 => ⟨rfl, ?_⟩, hone.le⟩
        have h : r ≠ q := by
          rintro rfl
          omega
        simp [hsize, h]
      · -- moved
        rw [if_neg hqp]
        let b : Block α := fun i =>
          if i < min (w.slots B T p) (n * T.itemSize / T.itemSize) then w.mem p i else w.mem q i
        have hm : w.Moved B heap p q (n * T.itemSize) := ⟨hqp, habs, hrefs, hsize⟩
        have hshared : ∀ r, 1 < B.refs w.heap r → r ≠ q ∧ (r ≠ p ∨ 1 < B.refs w.heap p) := by
          intro r h1
          refine ⟨?_, ?_⟩
          · rintro rfl
            omega
          · by_cases hrp : r = p
            · exact .inr (hrp ▸ h1)
            · exact .inl hrp
        have hr₁ := hm.rest hr ht b
        have hslots : slots B T { w with heap := heap } q = n := slots_eq (by simp [hsize])
        refine ⟨⟨hr₁.setVec _, by simp, by simp [hrefs]⟩, by simp [size], hslots, ?_,
          fun u hu => setVec_vec_of_ne hu, fun r h1 => ?_, by omega⟩
        · rw [setStorage_mem, setMem_mem]
          refine (hx.filled.take m).congr fun i _ hi => if_pos ?_
          have := hx.room
          simp at hi
          rw [Nat.mul_div_cancel n T.itemSize_pos]
          omega
        · obtain ⟨hrq, hrp⟩ := hshared r h1
          exact ⟨setMem_mem_of_ne hrq, hm.size_eq hrq hrp⟩

/-- A gap of no slots is none. -/
theorem Gap.refines {pos : Nat} (h : w.Gap B T v q abs xs pos 0) (hpos : pos ≤ xs.length) :
    w.Refines B T (Function.update abs v xs) := by
  have hempty : w.Gap B T v q abs xs pos ([] : List α).length := h
  have hfill := hempty.fill hpos
  rwa [Block.build_nil, setMem_self, List.append_nil, List.take_append_drop] at hfill

theorem SameBuffers.refines (hs : w.SameBuffers B w')
    (hr : w.Rest B T v (w.vec v).mStorage.toList abs) (hk : w.Keeps B T v xs) :
    w'.Refines B T (Function.update abs v xs) := by
  refine Rest.refines ?_ (hs.keeps hk)
  rw [hs.vec]
  exact hs.rest hr

theorem Spread.gap_of_size {pos amount : Nat} (h : Spread T (w.mem q) xs pos amount)
    (howns : w.Owns B T v q abs) (hroom : xs.length + amount ≤ w.slots B T q)
    (hn : w.size v = xs.length + amount) : w.Gap B T v q abs xs pos amount where
  owns := howns
  count := hn
  front := h.1
  back := h.2.1
  room := hroom
  raw ht := (h.2.2 ht).1
  vacant := by
    by_cases ht : T.trivialDtor = true
    · exact .inl ht
    · exact .inr fun i hi => (h.2.2 (by simpa using ht)).2 _ (by omega) (by omega)

theorem Spread.gap {pos amount : Nat} (h : Spread T (w.mem q) xs pos amount)
    (howns : w.Owns B T v q abs) (hroom : xs.length + amount ≤ w.slots B T q) :
    (w.setCount v (xs.length + amount)).Gap B T v q abs xs pos amount :=
  gap_of_size h (howns.setCount _) hroom (by simp [size])

/-- `q` was not there, or the vector had it alone and with room for `n` items, or with items that
need no constructor to be moved. -/
def Available (B : SharedBuffer H P) (T : ItemType α) (w : World H P ν α) (v : ν) (q : P)
    (n : Nat) : Prop :=
  B.refs w.heap q = 0 ∨ B.refs w.heap q = 1 ∧
    (n ≤ w.capacity B T v ∨ (T.trivialCopy && T.trivialDtor) = true)

omit [DecidableEq ν] [Fintype ν] in
theorem Available.le_one {n : Nat} (h : w.Available B T v q n) : B.refs w.heap q ≤ 1 := by
  obtain h0 | ⟨h1, -⟩ := h
  · omega
  · omega

/-- There is storage with a gap, or nothing has happened. -/
theorem growStorage_spec {pos amount newCapacity : Nat}
    (hr : w.Rest B T v (w.vec v).mStorage.toList abs) (hk : w.Keeps B T v xs)
    (hpos : pos ≤ xs.length) (hlarge : xs.length + amount ≤ newCapacity) :
    ∃ w' o, w.growStorage B T v pos amount newCapacity = .ok (w', o) ∧
      o.isNone = w.refuses B T v (xs.length = pos) newCapacity ∧
      (∀ u, u ≠ v → w'.vec u = w.vec u) ∧ w.SharedSame B w' ∧
      match o with
      | none => w.SameBuffers B w'
      | some q => (w'.setCount v (xs.length + amount)).Gap B T v q abs xs pos amount ∧
          w.Available B T v q (xs.length + amount) := by
  have hn : w.size v = xs.length := hk.1
  -- what follows when new storage is built
  have hnew : ∀ {w₁ : World H P ν α} {o : Option P},
      (match o with
        | none => w.SameBuffers B w₁
        | some q => w₁.Owns B T v q abs ∧ w₁.size v = w.size v ∧
            B.size w₁.heap q = some (newCapacity * T.itemSize) ∧
            Spread T (w₁.mem q) xs pos amount ∧ (∀ u, u ≠ v → w₁.vec u = w.vec u) ∧
            w.SharedSame B w₁ ∧ B.refs w.heap q = 0) →
      (∀ u, u ≠ v → w₁.vec u = w.vec u) ∧ w.SharedSame B w₁ ∧
      match o with
      | none => w.SameBuffers B w₁
      | some q => (w₁.setCount v (xs.length + amount)).Gap B T v q abs xs pos amount ∧
          w.Available B T v q (xs.length + amount) := by
    intro w₁ o hpost
    cases o with
    | none => exact ⟨fun u _ => by rw [hpost.vec], hpost.sharedSame, hpost⟩
    | some q =>
      obtain ⟨howns, -, hsize, hbuilt, hframe, hsame, h0⟩ := hpost
      exact ⟨hframe, hsame, hbuilt.gap howns (by rw [slots_eq hsize]; exact hlarge), .inl h0⟩
  cases hs : (w.vec v).mStorage with
  | none =>
    have hxs : xs = [] := by simpa [hs] using hk.2
    subst hxs
    obtain rfl : pos = 0 := by simpa using hpos
    obtain ⟨w₁, o, heq, hrefused, hpost⟩ := replaceStorage_spec (newCapacity * T.itemSize)
      (fun w _ => (Except.ok w >>= Except.ok : Except Fault (World H P ν α)))
      (fun b => Spread T b ([] : List α) 0 amount) hr hk (by
        intro heap q hf _
        refine ⟨w.mem q, by
          rw [show w.mem q = mem { w with heap := heap } q from rfl, setMem_self]
          rfl, Block.filled_nil, Block.filled_nil, fun ht => ⟨?_, ?_⟩⟩
        · exact (hf.raw ht).mono (Nat.zero_le _)
        · exact fun i hi _ => hf.raw ht i hi)
    exact ⟨w₁, o, by simpa [growStorage, hs, hn] using heq, by simpa [refuses, hs] using hrefused,
      hnew hpost⟩
  | some p =>
    have hx : w.Holds B T p xs := by simpa [hs] using hk.2
    have hr' : w.Rest B T v [p] abs := by simpa [hs] using hr
    by_cases htrivial : (decide (xs.length = pos) && T.trivialCopy && T.trivialDtor) = true
    · -- the buffer is resized where it is or moved
      have heq' : w.growStorage B T v pos amount newCapacity =
          .ok (w.editResize B T v p (newCapacity * T.itemSize)) := by
        simp only [growStorage, hs, hn, htrivial]
      have hrefuses : w.refuses B T v (xs.length = pos) newCapacity =
          (B.editResize w.heap p (newCapacity * T.itemSize)).2.isNone := by
        simp only [refuses, hs, htrivial]
      simp only [Bool.and_eq_true, decide_eq_true_eq] at htrivial
      obtain ⟨⟨rfl, hcopy⟩, hdtor⟩ := htrivial
      obtain ⟨w₁, o, heq, hrefused, hpost⟩ := editResize_spec hr' hs hx hdtor
        (Nat.le_of_add_right_le hlarge)
      refine ⟨w₁, o, by rw [heq', heq], hrefused.trans hrefuses.symm, ?_⟩
      cases o with
      | none => exact ⟨fun u _ => by rw [hpost.vec], hpost.sharedSame, hpost⟩
      | some q =>
        obtain ⟨howns, -, hslots, hfilled, hframe, hsame, hone⟩ := hpost
        have hnt : ¬ T.trivialDtor = false := by simp [hdtor]
        have hspread : Spread T (w₁.mem q) xs xs.length amount :=
          ⟨hfilled, by simp, fun hf => absurd hf hnt⟩
        refine ⟨hframe, hsame, hspread.gap howns (by rw [hslots]; exact hlarge), ?_⟩
        have hboth : (T.trivialCopy && T.trivialDtor) = true := by rw [hcopy, hdtor]; rfl
        by_cases h0 : B.refs w.heap q = 0
        · exact .inl h0
        · exact .inr ⟨by omega, .inr hboth⟩
    · rw [Bool.not_eq_true] at htrivial
      obtain ⟨w₁, o, heq, hrefused, hpost⟩ := replaceStorage_spec (newCapacity * T.itemSize)
        (fun w q => do
          let w ← (if pos ≠ 0 then w.doCopy B T q 0 (.storage p 0) pos else .ok w)
          if pos ≠ xs.length then
            w.doCopy B T q (pos + amount) (.storage p pos) (xs.length - pos) else .ok w)
        (fun b => Spread T b xs pos amount) hr hk (by
          intro heap q hf hq
          have hpq : p ≠ q := fun h => hq (h ▸ hs)
          have hslots : slots B T { w with heap := heap } q = newCapacity :=
            slots_eq (by simp [hf.size])
          obtain ⟨b, heq, hfront, hback, hraw⟩ := copyAround pos pos (pos + amount)
            (xs.length - pos) (c := pos ≠ xs.length) (hf.holds hpq hx) hpq
            (by omega) hpos (by omega) (by omega) hf.raw (by omega)
          refine ⟨b, heq, hfront, ?_, fun ht => ⟨?_, (hraw ht).2⟩⟩
          · rwa [List.take_of_length_le (by simp)] at hback
          · exact (hraw ht).1.mono (by omega))
      refine ⟨w₁, o, ?_, ?_, hnew hpost⟩
      · simp only [growStorage, hs, hn, htrivial]
        exact heq
      · simp only [refuses, hs, htrivial]
        exact hrefused

/-- Where the room is, when it is in the storage. -/
theorem Gap.itemLocation {pos amount : Nat} {refused : Bool}
    (h : w'.Gap B T v q abs xs pos amount) (hrefused : refused = false)
    (h1 : w.Available B T v q (xs.length + amount)) (hpos : pos ≤ xs.length) :
    match w'.itemLocation B T v pos with
    | none => (amount = 0 ∨ refused) ∧ w'.Refines B T (Function.update abs v xs)
    | some (q, k) => refused = false ∧ k = pos ∧ w'.Gap B T v q abs xs pos amount ∧
        w.Available B T v q (xs.length + amount) := by
  rw [itemLocation_eq h.owns.storage]
  by_cases hlt : pos < w'.slots B T q
  · rw [if_pos hlt]
    exact ⟨hrefused, rfl, h, h1⟩
  · rw [if_neg hlt]
    have := h.room
    have h0 : amount = 0 := by omega
    subst h0
    exact ⟨.inl rfl, h.refines hpos⟩

/-- There is room in front of the item at `pos`; or no room is asked for, or it is refused, and
nothing has happened. -/
theorem grow_spec {pos : Nat} (amount : Nat) (hr : w.Rest B T v (w.vec v).mStorage.toList abs)
    (hk : w.Keeps B T v xs) (hpos : pos ≤ xs.length) :
    Safely (w.grow B T v pos amount) fun (w', place) =>
      (∀ u, u ≠ v → w'.vec u = w.vec u) ∧ w.SharedSame B w' ∧
      match place with
      | none => (amount = 0 ∨ w.growRefused B T v pos amount) ∧
        w'.Refines B T (Function.update abs v xs)
      | some (q, k) => w.growRefused B T v pos amount = false ∧ k = pos ∧
        w'.Gap B T v q abs xs pos amount ∧ w.Available B T v q (xs.length + amount) := by
  have hn : w.size v = xs.length := hk.1
  refine safely_guardFatal fun _ => ?_
  rw [hn]
  by_cases hcap : w.capacity B T v < xs.length + amount
  · rw [if_pos hcap]
    refine safely_guardFatal fun _ => safely_guardFatal fun _ => safely_guardFatal fun _ => ?_
    obtain ⟨w₁, o, heq, hrefused, hframe, hsame, hpost⟩ := growStorage_spec hr hk hpos
      (show xs.length + amount ≤ max kMinVectorCapacity
        (xs.length + amount + (xs.length + amount) / 2 + 1) by omega)
    have hgrow : w.growRefused B T v pos amount = o.isNone := by
      rw [hrefused, growRefused, hn, decide_eq_true hcap, Bool.true_and]
    rw [heq]
    cases o with
    | none => exact ⟨hframe, hsame, .inr hgrow, hpost.refines hr hk⟩
    | some q =>
      refine ⟨fun u hu => ?_, hsame, hpost.1.itemLocation hgrow hpost.2 hpos⟩
      rw [setCount, setVec_vec_of_ne hu]
      exact hframe u hu
  · have hgrow : w.growRefused B T v pos amount = false := by
      rw [growRefused, hn, decide_eq_false hcap, Bool.false_and]
    rw [if_neg hcap]
    refine Safely.bind _ (editArrayImpl_spec hr hk) ?_
    rintro ⟨w₁, o⟩ ⟨hframe, hsize, hsame, hpost⟩
    cases o with
    | none =>
      obtain ⟨rfl, hs⟩ := hpost
      have hxs : xs = [] := by simpa [hs] using hk.2
      subst hxs
      simp only [capacity, hs, List.length_nil, Nat.zero_add] at hcap
      obtain rfl : amount = 0 := by omega
      refine ⟨fun u hu => setVec_vec_of_ne hu, fun _ _ => ⟨rfl, rfl⟩, ?_⟩
      have hloc : (w₁.setCount v 0).itemLocation B T v pos = none := by
        simp [World.itemLocation, capacity, hs]
      simp only [List.length_nil, Nat.add_zero, hloc]
      refine ⟨.inl trivial, Rest.refines (by simpa [setCount] using hr.setVec _) ⟨by simp [size], ?_⟩⟩
      simp [hs]
    | some q =>
      obtain ⟨howns, hx, hslots, hone, -⟩ := hpost
      have hroom : xs.length + amount ≤ w₁.slots B T q := by omega
      obtain ⟨b, hmove, hspread⟩ := spread_of_holds hx hpos hroom
      have hspread' : Spread T ((w₁.setMem q b).mem q) xs pos amount := by rwa [setMem_mem]
      have hgap := hspread'.gap (howns.setMem b) hroom
      simp only [hmove, bind, Except.bind]
      have havailable : w.Available B T v q (xs.length + amount) := by
        by_cases h0 : B.refs w.heap q = 0
        · exact .inl h0
        · exact .inr ⟨by omega, .inl (by omega)⟩
      refine ⟨fun u hu => ?_, fun r h1 => ?_, hgap.itemLocation hgrow havailable hpos⟩
      · rw [setCount, setVec_vec_of_ne hu]
        exact hframe u hu
      · have hrq : r ≠ q := by
          rintro rfl
          omega
        obtain ⟨hm, hz⟩ := hsame r h1
        exact ⟨by rw [setCount_mem, setMem_mem_of_ne hrq, hm], hz⟩

/-! ## Fewer items -/

theorem Owns.refines (h : w.Owns B T v q abs) (hfilled : (w.mem q).Filled 0 xs)
    (hroom : xs.length ≤ w.slots B T q)
    (hraw : T.trivialDtor = false → (w.mem q).RawFrom xs.length) :
    (w.setCount v xs.length).Refines B T (Function.update abs v xs) :=
  (h.setCount xs.length).refines_of_holds ⟨hfilled, hroom, hraw⟩ (by simp [size])

/-- There is storage without the items that go, or nothing has happened. -/
theorem shrinkStorage_spec {pos amount newCapacity : Nat} (hr : w.Rest B T v [p] abs)
    (hs : (w.vec v).mStorage = some p) (hk : w.Keeps B T v xs) (hpos : pos + amount ≤ xs.length)
    (hlarge : xs.length - amount ≤ newCapacity) :
    ∃ w' o, w.shrinkStorage B T v p pos amount newCapacity = .ok (w', o) ∧
      o.isNone = w.refuses B T v (pos = xs.length - amount) newCapacity ∧
      (∀ u, u ≠ v → w'.vec u = w.vec u) ∧ w.SharedSame B w' ∧
      match o with
      | none => w.SameBuffers B w'
      | some _ => (w'.setCount v (xs.length - amount)).Refines B T
          (Function.update abs v (xs.take pos ++ xs.drop (pos + amount))) := by
  have hn : w.size v = xs.length := hk.1
  have hx : w.Holds B T p xs := by simpa [hs] using hk.2
  have hr' : w.Rest B T v (w.vec v).mStorage.toList abs := by simpa [hs] using hr
  generalize hys : xs.take pos ++ xs.drop (pos + amount) = ys
  have hlen : ys.length = xs.length - amount := by
    rw [← hys]
    simp
    omega
  rw [← hlen]
  by_cases htrivial :
      (decide (pos = xs.length - amount) && T.trivialCopy && T.trivialDtor) = true
  · -- the items that go are the last ones
    have heq' : w.shrinkStorage B T v p pos amount newCapacity =
        .ok (w.editResize B T v p (newCapacity * T.itemSize)) := by
      rw [shrinkStorage, hn, if_pos htrivial]
    have hrefuses : w.refuses B T v (pos = xs.length - amount) newCapacity =
        (B.editResize w.heap p (newCapacity * T.itemSize)).2.isNone := by
      simp only [refuses, hs, htrivial]
    simp only [Bool.and_eq_true, decide_eq_true_eq] at htrivial
    obtain ⟨⟨rfl, -⟩, hdtor⟩ := htrivial
    obtain ⟨w₁, o, heq, hrefused, hpost⟩ := editResize_spec hr hs hx hdtor hlarge
    refine ⟨w₁, o, by rw [heq', heq], by rw [hrefused, hlen, hrefuses], ?_⟩
    cases o with
    | none => exact ⟨fun u _ => by rw [hpost.vec], hpost.sharedSame, hpost⟩
    | some q =>
      obtain ⟨howns, -, hslots, hfilled, hframe, hsame, -⟩ := hpost
      have hnt : ¬ T.trivialDtor = false := by simp [hdtor]
      have htake : xs.take (xs.length - amount) = ys := by
        rw [← hys, List.drop_of_length_le (by omega), List.append_nil]
      rw [htake] at hfilled
      exact ⟨hframe, hsame, howns.refines hfilled (by omega) fun hf => absurd hf hnt⟩
  · rw [Bool.not_eq_true] at htrivial
    obtain ⟨w₁, o, heq, hrefused, hpost⟩ := replaceStorage_spec (newCapacity * T.itemSize)
      (fun w q => do
        let w ← (if pos ≠ 0 then w.doCopy B T q 0 (.storage p 0) pos else .ok w)
        if pos ≠ xs.length - amount then
          w.doCopy B T q pos (.storage p (pos + amount)) (xs.length - amount - pos)
        else .ok w)
      (fun b => b.Filled 0 ys ∧ (T.trivialDtor = false → b.RawFrom ys.length)) hr' hk (by
        intro heap q hf hq
        have hpq : p ≠ q := fun h => hq (h ▸ hs)
        have hslots : slots B T { w with heap := heap } q = newCapacity :=
          slots_eq (by simp [hf.size])
        obtain ⟨b, heq, hfront, hback, hraw⟩ := copyAround pos (pos + amount) pos
          (xs.length - amount - pos) (c := pos ≠ xs.length - amount)
          (hf.holds hpq hx) hpq le_rfl (by omega) (by omega) (by omega) hf.raw (by omega)
        rw [List.take_of_length_le (by simp; omega)] at hback
        refine ⟨b, heq, ?_, fun ht => ?_⟩
        · rw [← hys]
          refine Block.filled_append.mpr ⟨hfront, ?_⟩
          simpa [show min pos xs.length = pos by omega] using hback
        · exact (hraw ht).1.mono (by omega))
    refine ⟨w₁, o, ?_, ?_, ?_⟩
    · rw [shrinkStorage, hn, if_neg (by rw [htrivial]; exact Bool.false_ne_true)]
      exact heq
    · simp only [refuses, hs, hlen, htrivial]
      exact hrefused
    · cases o with
      | none => exact ⟨fun u _ => by rw [hpost.vec], hpost.sharedSame, hpost⟩
      | some q =>
        obtain ⟨howns, -, hsize, ⟨hfilled, hraw⟩, hframe, hsame, -⟩ := hpost
        exact ⟨hframe, hsame, howns.refines hfilled (by rw [slots_eq hsize]; omega) hraw⟩

/-- The items go; or all stay, exactly when there is no memory for smaller storage. -/
theorem shrink_spec {pos amount : Nat} (hr : w.Rest B T v (w.vec v).mStorage.toList abs)
    (hk : w.Keeps B T v xs) (hpos : pos + amount ≤ xs.length) :
    Safely (w.shrink B T v pos amount) fun w' =>
      (∀ u, u ≠ v → w'.vec u = w.vec u) ∧ w.SharedSame B w' ∧
      if w.shrinkRefused B T v pos amount then w.SameBuffers B w'
      else w'.Refines B T (Function.update abs v (xs.take pos ++ xs.drop (pos + amount))) := by
  have hn : w.size v = xs.length := hk.1
  cases hs : (w.vec v).mStorage with
  | none =>
    have hxs : xs = [] := by simpa [hs] using hk.2
    subst hxs
    refine .of_eq (x := w) (by simp [shrink, hs, pure, Except.pure]) ?_
    refine ⟨fun _ _ => rfl, fun _ _ => ⟨rfl, rfl⟩, ?_⟩
    rw [if_neg (by simp [shrinkRefused, capacity, hs])]
    simpa using Rest.refines hr hk
  | some p =>
    have hr' : w.Rest B T v [p] abs := by simpa [hs] using hr
    simp only [shrink, hs]
    refine safely_guardFatal fun _ => ?_
    rw [hn]
    by_cases hcap : xs.length - amount < w.capacity B T v / 2
    · rw [if_pos hcap]
      obtain ⟨w₁, o, heq, hrefused, hframe, hsame, hpost⟩ := shrinkStorage_spec hr' hs hk hpos
        (show xs.length - amount ≤ max kMinVectorCapacity ((xs.length - amount) * 2) by omega)
      have hshrink : w.shrinkRefused B T v pos amount = o.isNone := by
        rw [hrefused, shrinkRefused, hn, decide_eq_true hcap, Bool.true_and]
      rw [heq, hshrink]
      cases o with
      | none => exact ⟨hframe, hsame, hpost⟩
      | some q =>
        refine ⟨fun u hu => ?_, hsame, hpost⟩
        rw [setCount, setVec_vec_of_ne hu]
        exact hframe u hu
    · have hshrink : w.shrinkRefused B T v pos amount = false := by
        rw [shrinkRefused, hn, decide_eq_false hcap, Bool.false_and]
      rw [if_neg hcap, hshrink]
      refine Safely.bind _ (editArrayImpl_spec hr hk) ?_
      rintro ⟨w₁, o⟩ ⟨hframe, hsize, hsame, hpost⟩
      cases o with
      | none =>
        rw [hs] at hpost
        cases hpost.2
      | some q =>
        obtain ⟨howns, hx₁, hslots, hone, -⟩ := hpost
        have hroom := hx₁.room
        have hlen : (xs.take pos ++ xs.drop (pos + amount)).length = xs.length - amount := by
          simp
          omega
        obtain ⟨b, hdestroy, hspread⟩ := doDestroy_spread hx₁ hpos
        have hspread' : Spread T ((w₁.setMem q b).mem q)
            (xs.take pos ++ xs.drop (pos + amount)) pos amount := by rwa [setMem_mem]
        obtain ⟨b', hmove, hfilled, hraw⟩ := hspread'.close (B := B) (by omega) (by
          rw [slots_setMem]
          omega)
        rw [hlen, setMem_setMem] at hmove
        simp only [hdestroy, hmove, bind, Except.bind]
        refine ⟨fun u hu => ?_, fun r h1 => ?_, ?_⟩
        · rw [setCount, setVec_vec_of_ne hu]
          exact hframe u hu
        · have hrq : r ≠ q := by
            rintro rfl
            omega
          obtain ⟨hm, hz⟩ := hsame r h1
          exact ⟨by rw [setCount_mem, setMem_mem_of_ne hrq, hm], hz⟩
        · rw [if_neg Bool.false_ne_true, ← hlen]
          refine (howns.setMem b').refines (by rwa [setMem_mem]) ?_ (by rwa [setMem_mem])
          rw [slots_setMem]
          omega

/-! ## Replacing an item -/

/-- A new item can be built where the old one was destroyed. -/
theorem destroyed_gap {index : Nat} (howns : w.Owns B T v q abs) (hx : w.Holds B T q xs)
    (hn : w.size v = xs.length) (hindex : index < xs.length) :
    ∃ w', w.doDestroy B T q index 1 = .ok w' ∧ w'.vec = w.vec ∧
      w'.Gap B T v q abs (xs.take index ++ xs.drop (index + 1)) index 1 := by
  have hlen : (xs.take index ++ xs.drop (index + 1)).length + 1 = xs.length := by
    simp
    omega
  have hroom := hx.room
  obtain ⟨b, hdestroy, hspread⟩ := doDestroy_spread hx (show index + 1 ≤ xs.length by omega)
  have hspread' : Spread T ((w.setMem q b).mem q)
      (xs.take index ++ xs.drop (index + 1)) index 1 := by rwa [setMem_mem]
  refine ⟨_, hdestroy, rfl, hspread'.gap_of_size (howns.setMem b) ?_ ?_⟩
  · rw [hlen, slots_setMem]
    exact hroom
  · rw [hlen]
    exact hn

theorem Gap.replace_holds {index : Nat} {x : α} (hindex : index < xs.length)
    (h : w.Gap B T v q abs (xs.take index ++ xs.drop (index + 1)) index [x].length) :
    (w.setMem q ((w.mem q).build index [x])).Holds B T q (xs.set index x) := by
  have hfill := h.fill_holds (by simp; omega)
  have hset : (xs.take index ++ xs.drop (index + 1)).take index ++ [x] ++
      (xs.take index ++ xs.drop (index + 1)).drop index = xs.set index x := by
    rw [List.set_eq_take_append_cons_drop, if_pos hindex]
    simp [Nat.min_eq_left hindex.le]
  rwa [hset] at hfill

end World
end Vector
end Huashan
