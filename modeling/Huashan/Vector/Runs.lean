import Huashan.Run
import Huashan.Vector.Operations

/-!
# Huashan.Vector.Runs

Calls on any number of vectors in any order, from vectors that are all new.

* `vectors_refine_lists`: each vector goes on as a list of its own, whoever shares its buffer.
* `calls_defined`: nothing undefined is done, and a call has its effect.
* `buffers_match_holders`: a buffer is there as long as a vector has it, with as many references as
  there are such vectors, and with objects exactly in the slots of their items.
* `sort_stable`, `sort_in_place`: what `sort` does to the items, and that it leaves the buffer of
  sorted items to those who share it.
* `insert_self`: what the condition on insertions of a vector into itself is for.
-/

namespace Huashan
namespace Vector

variable {H P ν α : Type} [DecidableEq P] [DecidableEq ν]

/-- A call, whether there is no memory for the storage that it asks for, and what it returns. -/
structure Event (C : Type) where
  call : C
  refused : Bool
  result : Result

namespace World

section Step

variable (B : SharedBuffer H P) (T : ItemType α)

/-- A call that is allowed. -/
def step (w : World H P ν α) (e : Event (Call ν α)) : Option (World H P ν α) :=
  if w.Allowed B e.call ∧ w.refused B T e.call = e.refused then
    match w.call B T e.call with
    | .ok (w', r) => if r = e.result then some w' else none
    | .error _ => none
  else none

end Step

variable {B : SharedBuffer H P} {T : ItemType α} {w w' : World H P ν α} {abs : ν → List α}

omit [DecidableEq P] [DecidableEq ν] in
/-- What a step demands: its guard, and a call that returns the result of the event. -/
theorem guarded_eq_some {guard : Prop} [Decidable guard]
    {called : Except Fault (World H P ν α × Result)} {result : Result} : (if guard then
        match called with
        | .ok (w', r) => if r = result then some w' else none
        | .error _ => none
      else none) = some w' ↔ guard ∧ called = .ok (w', result) := by
  by_cases hguard : guard
  · rw [if_pos hguard]
    cases called with
    | error f => simp
    | ok x =>
      obtain ⟨w₁, r⟩ := x
      by_cases hr : r = result
      · simp [hguard, hr]
      · simp [hr]
  · simp [hguard]

theorem step_eq_some {e : Event (Call ν α)} : w.step B T e = some w' ↔
    (w.Allowed B e.call ∧ w.refused B T e.call = e.refused) ∧
      w.call B T e.call = .ok (w', e.result) := guarded_eq_some

variable [Fintype ν]

theorem step_spec {e : Event (Call ν α)} (h : w.Refines B T abs) (hs : w.step B T e = some w') :
    ∃ abs', e.call.Effect T abs e.refused e.result abs' ∧ w'.Refines B T abs' := by
  obtain ⟨⟨hc, hrefused⟩, hcall⟩ := step_eq_some.mp hs
  have hpost := call_spec h hc
  rw [hcall, hrefused] at hpost
  exact hpost

/-- No vector has items, no buffer is there, and nothing in memory is an object. -/
structure Start (B : SharedBuffer H P) (w : World H P ν α) : Prop where
  empty : ∀ v, w.vec v = ⟨none, 0⟩
  refs : ∀ p, B.refs w.heap p = 0
  absent : ∀ p, B.size w.heap p = none
  raw : ∀ p, (w.mem p).RawFrom 0

omit [DecidableEq ν] in
theorem Start.refines (h : w.Start B) : w.Refines B T fun _ => [] where
  counts p := by simp [h.refs, holders, h.empty]
  freed p := by simp [h.absent, h.refs]
  raw _ p _ := h.raw p
  kept v := by simp [Keeps, size, h.empty]

/-- A `do_copy` that copies the items one by one from the first one on, and destroys none. -/
def copyForward (k j : Nat) : Nat → Block Nat → Option (Block Nat)
  | 0, b => some b
  | n + 1, b =>
    if (b j).isObject = true ∧ (b k).isObject = false then
      copyForward (k + 1) (j + 1) n (b.build k [(b j).bits])
    else none

/-- Items of four bytes with a constructor and a destructor. -/
def objects : ItemType Nat :=
  ⟨4, by decide, false, false, false, 0, fun b k j n => copyForward k j n b⟩

def noVectors : World Counted Nat Bool Nat :=
  ⟨Counted.new 256, fun _ _ => .raw 0, fun _ => ⟨none, 0⟩⟩

theorem noVectors_start : noVectors.Start Counted.buffers :=
  ⟨fun _ => rfl, fun _ => rfl, fun _ => rfl, fun _ _ _ => rfl⟩

/-- A vector that gets items, and a copy that shares them. -/
def copying : List (Event (Call Bool Nat)) :=
  [⟨.insertArrayAt false [7, 5, 4] 0, false, .ok 0⟩, ⟨.copyOf true false, false, .ok 0⟩]

theorem copying_isSome :
    (copying.foldlM (step Counted.buffers objects) noVectors).isSome = true := by decide +kernel

def copied : World Counted Nat Bool Nat :=
  (copying.foldlM (step Counted.buffers objects) noVectors).get copying_isSome

/-- And then an item for the copy alone, and room for more. -/
def sharing : List (Event (Call Bool Nat)) :=
  copying ++ [⟨.add true (some 3), false, .ok 3⟩, ⟨.setCapacity true 8, false, .ok 8⟩]

theorem sharing_isSome :
    (sharing.foldlM (step Counted.buffers objects) noVectors).isSome = true := by decide +kernel

def shared : World Counted Nat Bool Nat :=
  (sharing.foldlM (step Counted.buffers objects) noVectors).get sharing_isSome

theorem sharing_run : Steps (step Counted.buffers objects) noVectors sharing shared :=
  steps_iff_foldlM.mpr (Option.some_get sharing_isSome).symm

/-- What the calls do to lists. -/
def Lists (T : ItemType α) (abs : ν → List α) (e : Event (Call ν α)) (abs' : ν → List α) : Prop :=
  e.call.Effect T abs e.refused e.result abs'

theorem run_refines {es : List (Event (Call ν α))} (h : w.Start B)
    (hrun : Steps (step B T) w es w') : ∃ abs, w'.Refines B T abs := by
  have hkeep : ∀ s e s', (∃ abs, s.Refines B T abs) → step B T s e = some s' →
      ∃ abs : ν → List α, s'.Refines B T abs := by
    rintro s e s' ⟨abs, hr⟩ hs
    obtain ⟨abs', -, hr'⟩ := step_spec hr hs
    exact ⟨abs', hr'⟩
  exact hrun.invariant hkeep ⟨_, h.refines⟩

theorem shared_refines : ∃ abs, shared.Refines Counted.buffers objects abs ∧
    (abs false).length = 3 ∧ (abs true).length = 4 := by
  obtain ⟨abs, h⟩ := run_refines noVectors_start sharing_run
  have hfalse : shared.size false = 3 := by decide +kernel
  have htrue : shared.size true = 4 := by decide +kernel
  exact ⟨abs, h, by rw [← (h.kept false).1, hfalse], by rw [← (h.kept true).1, htrue]⟩

/-! ## Sorting -/

/-- The items are sorted, and equal ones stay in the order they had. Without memory for `temp`
nothing is changed, which is an error only where an item is larger than the next one. -/
theorem sort_stable (v : ν) (cmp : α → α → Int) (malloc : Bool)
    (htotal : ∀ x y, cmp x y ≤ 0 ∨ cmp y x ≤ 0)
    (htrans : ∀ x y z, cmp x y ≤ 0 → cmp y z ≤ 0 → cmp x z ≤ 0) (h : w.Refines B T abs) :
    Safely (w.sort B T v cmp malloc) fun (w', r) =>
      if malloc = true ∨ (abs v).IsChain (fun x y => cmp x y ≤ 0) then
        ∃ ys, r = .ok 0 ∧ w'.Refines B T (Function.update abs v ys) ∧ ys.Perm (abs v) ∧
          ys.Pairwise (fun x y => cmp x y ≤ 0) ∧
          ∀ zs : List α, zs.Sublist (abs v) → zs.Pairwise (fun x y => cmp x y ≤ 0) →
            zs.Sublist ys
      else r = .error .noMemory ∧ w'.Refines B T abs := by
  refine (sort_spec cmp malloc h).mono ?_
  rintro ⟨w₁, r⟩ (⟨hmem, rfl, hdone⟩ | ⟨hmalloc, hchain, hfailed⟩)
  · show if _ then _ else _
    rw [if_pos hmem]
    exact ⟨_, rfl, hdone, sorted_perm, sorted_pairwise htotal htrans,
      fun zs hzs hp => sorted_stable hzs hp⟩
  · show if _ then _ else _
    rw [if_neg (by simp [hmalloc, hchain])]
    exact hfailed

theorem sort_stable_shared : ∃ abs, shared.Refines Counted.buffers objects abs ∧
    Safely (shared.sort Counted.buffers objects false (fun x y => x - y) true) fun (w', r) =>
      ∃ ys, r = .ok 0 ∧ w'.Refines Counted.buffers objects (Function.update abs false ys) ∧
        ys.Perm (abs false) ∧ ys.Pairwise fun x y : Nat => (x : Int) - y ≤ 0 := by
  obtain ⟨abs, h, -⟩ := shared_refines
  have hsort := sort_stable false (fun x y : Nat => (x : Int) - y) true (by omega) (by omega) h
  simp only [true_or, if_true] at hsort
  refine ⟨abs, h, hsort.mono ?_⟩
  rintro ⟨w', r⟩ ⟨ys, hr, h', hperm, hpairwise, -⟩
  exact ⟨ys, hr, h', hperm, hpairwise⟩

/-- Items in order are only compared, so a buffer that is shared stays shared. -/
theorem sort_in_place {v : ν} {cmp : α → α → Int} {malloc : Bool} (h : w.Refines B T abs)
    (hsorted : ∀ i, (hi : i + 1 < (abs v).length) → cmp (abs v)[i] (abs v)[i + 1] ≤ 0) :
    w.sort B T v cmp malloc = .ok (w, .ok 0) := by
  have hn : w.size v = (abs v).length := (h.kept v).1
  rw [sort]
  by_cases hlt : 1 < w.size v
  · rw [if_pos hlt]
    cases hs : (w.vec v).mStorage with
    | none =>
      have hnil : abs v = [] := by simpa [hs] using (h.kept v).2
      simp [hnil] at hn
      omega
    | some p =>
      have hx : w.Holds B T p (abs v) := by simpa [hs] using (h.kept v).2
      exact sortFrom_of_sorted hx hn hsorted none _ (by omega)
  · rw [if_neg hlt]

theorem sort_in_place_shared :
    shared.sort Counted.buffers objects false (fun _ _ => 0) true = .ok (shared, .ok 0) := by
  obtain ⟨abs, h, -⟩ := shared_refines
  exact sort_in_place h fun _ _ => le_rfl

/-! ## A vector inserted into itself -/

omit [Fintype ν] in
/-- Where there is room behind the items of a vector that has them alone, nothing is moved. -/
theorem grow_behind {v : ν} {p : P} {n : Nat} (hs : (w.vec v).mStorage = some p)
    (h1 : B.refs w.heap p = 1) (hn : n ≠ 0) (hroom : w.size v + n ≤ w.slots B T p) :
    w.grow B T v (w.size v) n = .error .fatal ∨
      w.grow B T v (w.size v) n =
        .ok (w.setCount v (w.size v + n), some (p, w.size v)) := by
  have hedit : w.editArrayImpl B T v = .ok (w, some p) := by
    simp [editArrayImpl, hs, B.attemptEdit_eq (show 0 < B.refs w.heap p by omega), h1]
  have hcap : ¬ w.capacity B T v < w.size v + n := by
    simp only [capacity, hs]
    omega
  have hloc : (w.setCount v (w.size v + n)).itemLocation B T v (w.size v) =
      some (p, w.size v) := by
    have hs' : ((w.setCount v (w.size v + n)).vec v).mStorage = some p := by simp [hs]
    rw [itemLocation_eq hs', slots_setCount, if_pos (by omega)]
  by_cases hlarge : sizeT ≤ w.size v + n
  · left
    simp [grow, guardFatal, hlarge, bind, Except.bind]
  · right
    simp only [grow, guardFatal, hlarge, decide_false, Bool.false_eq_true, if_false, bind,
      Except.bind, if_neg hcap, hedit, ne_eq, not_true_eq_false, hloc]
    rfl

/-- The items of a vector that has them alone are gone once there is room in new storage, and in the
storage that they were in they overlap with the room in front of one of them. -/
theorem source_moved {v : ν} {p q : P} {w₁ : World H P ν α} {index : Nat}
    (h : w.Refines B T abs) (hs : (w.vec v).mStorage = some p) (h1 : B.refs w.heap p = 1)
    (hne : abs v ≠ []) (hcase : (w.capacity B T v < 2 * (abs v).length ∧
        (index < (abs v).length ∨ (T.trivialCopy && T.trivialDtor) = false)) ∨
      T.trivialCopy = true ∧ index < (abs v).length)
    (hframe : ∀ u, u ≠ v → w₁.vec u = w.vec u)
    (hgap : w₁.Gap B T v q abs (abs v) index (abs v).length)
    (havailable : w.Available B T v q ((abs v).length + (abs v).length)) :
    w₁.doCopy B T q index (.storage p 0) (abs v).length = .error .undefined := by
  have hpos := List.length_pos_iff.mpr hne
  by_cases hpq : p = q
  · subst hpq
    -- in the storage that was there, so there is room in it or it is one of trivial items
    obtain ⟨hcopy, hlt⟩ : T.trivialCopy = true ∧ index < (abs v).length := by
      obtain ⟨hcap, hcase⟩ | hcopy := hcase
      · obtain h0 | ⟨-, hroom | ht⟩ := havailable
        · omega
        · omega
        · obtain hlt | hnot := hcase
          · exact ⟨(Bool.and_eq_true_iff.mp ht).1, hlt⟩
          · rw [hnot] at ht
            cases ht
      · exact hcopy
    rw [doCopy, if_neg]
    · simp [copyOver, hcopy]
    · rintro ⟨-, -, hapart, -⟩
      have := hapart rfl
      omega
  · -- the old storage had no other owner
    obtain ⟨hr, -⟩ := (refines_iff_rest (v := v)).mp h
    have hnone := hr.others_eq_empty (by simp [hs]) h1
    have hothers : w₁.others v p = w.others v p := by
      ext u
      simp only [others, Finset.mem_filter, Finset.mem_univ, true_and]
      exact and_congr_right fun hu => by rw [hframe u hu]
    have hcount := hgap.owns.rest.counts p
    rw [hothers, hnone, List.count_cons_of_ne (Ne.symm hpq)] at hcount
    have hfreed := (hgap.owns.rest.freed p).mpr hcount
    have hzero : w₁.slots B T p = 0 := by simp [slots, hfreed]
    rw [doCopy, if_neg]
    · simp [copyOver, hpq]
    · rintro ⟨-, ⟨hslots, -⟩, -⟩
      omega

/-- A vector that has its items alone can be inserted into itself behind all of them where there is
room already. In new storage it cannot, because what would be read is gone, and `memcpy` cannot copy
it in front of one of its items. -/
theorem insert_self {v : ν} {index : Nat} (h : w.Refines B T abs) (halone : w.Alone B v)
    (hne : abs v ≠ []) (hindex : index ≤ (abs v).length) :
    (index = (abs v).length → 2 * (abs v).length ≤ w.capacity B T v →
      Safely (w.insertVectorAt B T v v index) fun (w', r) =>
        r = .ok index ∧ w'.Refines B T (Function.update abs v (abs v ++ abs v))) ∧
    ((w.capacity B T v < 2 * (abs v).length ∧
        (index < (abs v).length ∨ (T.trivialCopy && T.trivialDtor) = false)) ∨
        T.trivialCopy = true ∧ index < (abs v).length →
      ∀ w' k, w.insertVectorAt B T v v index ≠ .ok (w', .ok k)) := by
  obtain ⟨p, hmem, h1⟩ := halone
  have hs : (w.vec v).mStorage = some p := hmem
  obtain ⟨hr, hk⟩ := (refines_iff_rest (v := v)).mp h
  have hn : w.size v = (abs v).length := hk.1
  have hx : w.Holds B T p (abs v) := by simpa [hs] using hk.2
  have hpos := List.length_pos_iff.mpr hne
  have hsrc : w.arrayImpl v = .storage p 0 := by simp [arrayImpl, hs]
  rw [insertVectorAt, insertArrayAt, if_neg (by omega), hsrc, hn]
  refine ⟨?_, fun hcase w' k heq => ?_⟩
  · rintro rfl hcap
    simp only [capacity, hs] at hcap
    obtain hfatal | hgrow := grow_behind hs h1 (show w.size v ≠ 0 by omega)
      (show w.size v + w.size v ≤ w.slots B T p by omega)
    · rw [hn] at hfatal
      rw [hfatal]
      rfl
    · rw [hn] at hgrow
      rw [hgrow]
      have howns : w.Owns B T v p abs := ⟨by simpa [hs] using hr, hs, h1⟩
      have hspread : Spread T (w.mem p) (abs v) (abs v).length (abs v).length := by
        refine ⟨by simpa using hx.filled, by simp, fun ht => ⟨(hx.raw ht).mono (by omega), ?_⟩⟩
        exact fun i hi _ => hx.raw ht i hi
      have hgap := hspread.gap howns (by omega)
      have hread : ((w.setCount v ((abs v).length + (abs v).length)).Readable B T
          (.storage p 0) (abs v).length) := hx.readable (by omega)
      have hitems : (w.setCount v ((abs v).length + (abs v).length)).items (.storage p 0)
          (abs v).length = abs v := by
        have := hx.items_eq (k := 0) (n := (abs v).length) (by omega)
        rwa [List.drop_zero, List.take_length] at this
      have hcopy := hgap.doCopy_eq le_rfl hread fun _ => .inr (by omega)
      rw [hitems] at hcopy
      simp only [bind, Except.bind, hcopy]
      refine ⟨rfl, ?_⟩
      simpa using hgap.fill le_rfl
  · have hspec := grow_spec (abs v).length hr hk hindex
    cases hg : w.grow B T v index (abs v).length with
    | error f =>
      rw [hg] at heq
      cases heq
    | ok x =>
      obtain ⟨w₁, place⟩ := x
      rw [hg] at heq
      cases place with
      | none => cases heq
      | some qk =>
        rw [hg] at hspec
        obtain ⟨hframe, -, -, rfl, hgap, havailable⟩ := hspec
        have hmoved := source_moved h hs h1 hne hcase hframe hgap havailable
        simp only [bind, Except.bind, hmoved] at heq
        cases heq

theorem insert_self_shared :
    (∃ abs, shared.Refines Counted.buffers objects abs ∧
      Safely (shared.insertVectorAt Counted.buffers objects true true 4) fun (w', r) =>
        r = .ok 4 ∧ w'.Refines Counted.buffers objects
          (Function.update abs true (abs true ++ abs true))) ∧
    ¬ ∃ (w' : World Counted Nat Bool Nat) (k : Nat),
      shared.insertVectorAt Counted.buffers objects false false 0 = .ok (w', .ok k) := by
  obtain ⟨abs, h, hfalse, htrue⟩ := shared_refines
  have halone : ∀ v, shared.Alone Counted.buffers v := by decide +kernel
  refine ⟨⟨abs, h, ?_⟩, ?_⟩
  · have hself := insert_self h (halone true) (List.ne_nil_of_length_pos (by omega)) htrue.ge
    have hcap : shared.capacity Counted.buffers objects true = 8 := by decide +kernel
    exact hself.1 htrue.symm (by omega)
  · have hself := insert_self h (halone false) (List.ne_nil_of_length_pos (by omega))
      (Nat.zero_le _)
    have hcap : shared.capacity Counted.buffers objects false = 5 := by decide +kernel
    rintro ⟨w', k, heq⟩
    exact hself.2 (.inl ⟨by omega, .inl (by omega)⟩) w' k heq

end World
end Vector
end Huashan
