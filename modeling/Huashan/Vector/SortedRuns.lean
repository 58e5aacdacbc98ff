import Huashan.Vector.Runs
import Huashan.Vector.SortedVector

/-!
# Huashan.Vector.SortedRuns

Calls on sorted vectors in any order.

* `sorted_vectors_ascend`: the items of each vector are in order and different all along.
* `indexOf_spec`: what `indexOf` and `orderOf` say about them.
* `short_cuts_agree`, `merge_undefined_iff`: when the merge of two sorted vectors is the plain one,
  and when it compares an item that is not there.
-/

namespace Huashan
namespace Vector

inductive SortedCall (ν α : Type) where
  /-- An operation of `VectorImpl`. -/
  | plain (c : Call ν α)
  | add (v : ν) (x : α)
  | remove (v : ν) (x : α)
  | merge (v u : ν)
  | mergeSorted (v u : ν)

/-- The operations that a sorted vector takes over as they are. -/
def Call.Inherited {ν α : Type} : Call ν α → Prop
  | .create _ | .copyOf .. | .assign .. | .removeItemsAt .. | .clear _ | .setCapacity ..
  | .finishVector _ => True
  | _ => False

instance {ν α : Type} : DecidablePred (Call.Inherited (ν := ν) (α := α)) := fun c =>
  match c with
  | .create _ | .copyOf .. | .assign .. | .removeItemsAt .. | .clear _ | .setCapacity ..
  | .finishVector _ => .isTrue trivial
  | .insertArrayAt .. | .insertVectorAt .. | .appendVector .. | .appendArray .. | .insertAt ..
  | .add .. | .push .. | .replaceAt .. | .pop _ | .resize .. | .sort .. => .isFalse id

variable {H P ν α : Type} [DecidableEq P] [DecidableEq ν]

namespace SortedCall

variable (T : ItemType α) (cmp : α → α → Int)

/-- The result of a call and the lists after it, when the storage that it asks for is refused or
not. -/
def Effect (abs : ν → List α) (c : SortedCall ν α) (refused : Bool) (r : Result)
    (abs' : ν → List α) : Prop :=
  match c with
  | .plain c => c.Effect T abs refused r abs'
  | .add v x =>
    (refused = false ∧ ∃ i, r = .ok i ∧ (put cmp x (abs v))[i]? = some x ∧
      abs' = Function.update abs v (put cmp x (abs v))) ∨
    (refused = true ∧ r = .error .noMemory ∧ abs' = abs)
  | .remove v x =>
    (∃ i, ∃ hi : i < (abs v).length, r = .ok i ∧ cmp (abs v)[i] x = 0 ∧
      Call.Removed abs v i 1 refused abs') ∨
    (r = .error .nameNotFound ∧ (∀ y ∈ abs v, cmp y x ≠ 0) ∧ abs' = abs)
  | .merge v u =>
    ∃ zs, World.Merged cmp (abs v) (abs u) refused r zs ∧ abs' = Function.update abs v zs
  | .mergeSorted v u =>
    -- the short cuts return the index of the first item of `u`
    ∃ r' zs, (r' = r ∨ r = .ok (abs v).length ∧ r' = .ok 0) ∧
      World.Merged cmp (abs v) (abs u) refused r' zs ∧ abs' = Function.update abs v zs

end SortedCall

namespace World

section Step

variable (B : SharedBuffer H P) (T : ItemType α) (cmp : α → α → Int) (w : World H P ν α)

def sortedCall : SortedCall ν α → Except Fault (World H P ν α × Result)
  | .plain c => w.call B T c
  | .add v x => w.sortedAdd B T cmp v (.values [x])
  | .remove v x => w.sortedRemove B T cmp v x
  | .merge v u => w.merge B T cmp v u
  | .mergeSorted v u => w.mergeSorted B T cmp v u

def sortedRefused : SortedCall ν α → Except Fault Bool
  | .plain c => .ok (w.refused B T c)
  | .add v x => w.addRefused B T cmp v x
  | .remove v x => w.removeRefused B T cmp v x
  | .merge v u => w.mergeRefused B T cmp v u
  | .mergeSorted v u => w.mergeSortedRefused B T cmp v u

/-- Two items that are both there are different. -/
def Differ (x y : Except Fault α) : Prop :=
  match x, y with
  | .ok x, .ok y => cmp x y ≠ 0
  | _, _ => True

/-- The short cuts of `merge` are for a vector with items, and for one that does not end where the
other begins. -/
def SortedAllowed : SortedCall ν α → Prop
  | .plain c => c.Inherited ∧ w.Allowed B c
  | .add _ _ => True
  | .remove _ _ => True
  | .merge v u => u ≠ v
  | .mergeSorted v u => u ≠ v ∧ w.size v ≠ 0 ∧
      Differ cmp (w.readLast B T u) (w.readArray B T v 0) ∧
      Differ cmp (w.readArray B T u 0) (w.readLast B T v)

instance (x y : Except Fault α) : Decidable (Differ cmp x y) :=
  match x, y with
  | .ok _, .ok _ => inferInstanceAs (Decidable (_ ≠ _))
  | .ok _, .error _ | .error _, .ok _ | .error _, .error _ => .isTrue trivial

instance (c : SortedCall ν α) : Decidable (w.SortedAllowed B T cmp c) :=
  match c with
  | .plain _ => inferInstanceAs (Decidable (_ ∧ _))
  | .add _ _ | .remove _ _ => .isTrue trivial
  | .merge _ _ => inferInstanceAs (Decidable (_ ≠ _))
  | .mergeSorted _ _ => inferInstanceAs (Decidable (_ ∧ _ ∧ _ ∧ _))

def sortedStep (e : Event (SortedCall ν α)) : Option (World H P ν α) :=
  if w.SortedAllowed B T cmp e.call ∧ w.sortedRefused B T cmp e.call = .ok e.refused then
    match w.sortedCall B T cmp e.call with
    | .ok (w', r) => if r = e.result then some w' else none
    | .error _ => none
  else none

end Step

variable {B : SharedBuffer H P} {T : ItemType α} {cmp : α → α → Int} {w w' : World H P ν α}
variable {u v : ν} {abs abs' : ν → List α}

/-! ## Lists in order -/

theorem Ascending.removed {xs : List α} (h : Ascending cmp xs) (i n : Nat) :
    Ascending cmp (xs.take i ++ xs.drop (i + n)) := by
  have hsub : (xs.take i ++ xs.drop (i + n)).Sublist xs := by
    have hdrop : (xs.drop (i + n)).Sublist (xs.drop i) := by
      rw [← List.drop_drop]
      exact List.drop_sublist n _
    have happend := (List.Sublist.refl (xs.take i)).append hdrop
    rwa [List.take_append_drop] at happend
  exact h.sublist hsub

/-- Lists stay in order when one of them is replaced by one in order. -/
theorem ascending_update (hasc : ∀ v, Ascending cmp (abs v)) {xs : List α}
    (hxs : Ascending cmp xs) : ∀ u, Ascending cmp (Function.update abs v xs u) := by
  intro u
  by_cases huv : u = v
  · subst huv
    rwa [Function.update_self]
  · rw [Function.update_of_ne huv]
    exact hasc u

theorem Removed.ascending {i n : Nat} {refused : Bool} (h : Call.Removed abs v i n refused abs')
    (hasc : ∀ v, Ascending cmp (abs v)) : ∀ v, Ascending cmp (abs' v) := by
  rw [Call.Removed] at h
  subst h
  split
  · exact hasc
  · exact ascending_update hasc (Ascending.removed (hasc v) i n)

theorem effect_ascending (hc : Compares cmp) {c : SortedCall ν α} {refused : Bool} {r : Result}
    (hinherited : ∀ d, c = .plain d → d.Inherited) (h : c.Effect T cmp abs refused r abs')
    (hasc : ∀ v, Ascending cmp (abs v)) : ∀ v, Ascending cmp (abs' v) := by
  have hnil : Ascending cmp ([] : List α) := List.Pairwise.nil
  cases c with
  | add v x =>
    obtain ⟨-, i, -, -, rfl⟩ | ⟨-, -, rfl⟩ := h
    · exact ascending_update hasc ((hasc v).put hc)
    · exact hasc
  | remove v x =>
    obtain ⟨i, -, -, -, hremoved⟩ | ⟨-, -, rfl⟩ := h
    · exact Removed.ascending hremoved hasc
    · exact hasc
  | merge v u =>
    obtain ⟨zs, hmerged, rfl⟩ := h
    exact ascending_update hasc (hmerged.ascending hc (hasc v))
  | mergeSorted v u =>
    obtain ⟨r', zs, -, hmerged, rfl⟩ := h
    exact ascending_update hasc (hmerged.ascending hc (hasc v))
  | plain c =>
    have hkind := hinherited c rfl
    cases c with
    | create v =>
      subst h
      exact ascending_update hasc hnil
    | finishVector v =>
      subst h
      exact ascending_update hasc hnil
    | copyOf v u =>
      subst h
      exact ascending_update hasc (hasc u)
    | assign v u =>
      subst h
      exact ascending_update hasc (hasc u)
    | removeItemsAt v i n =>
      obtain ⟨-, -, hremoved⟩ | ⟨-, -, rfl⟩ := h
      · exact Removed.ascending hremoved hasc
      · exact hasc
    | clear v => exact Removed.ascending h hasc
    | setCapacity v n =>
      obtain ⟨rfl, -⟩ := h
      exact hasc
    | _ => exact hkind.elim

/-! ## One call -/

theorem sortedStep_eq_some {e : Event (SortedCall ν α)} : w.sortedStep B T cmp e = some w' ↔
    (w.SortedAllowed B T cmp e.call ∧ w.sortedRefused B T cmp e.call = .ok e.refused) ∧
      w.sortedCall B T cmp e.call = .ok (w', e.result) := guarded_eq_some

variable [Fintype ν]

omit [DecidableEq ν] in
theorem not_touching (h : w.Refines B T abs)
    (h1 : Differ cmp (w.readLast B T u) (w.readArray B T v 0))
    (h2 : Differ cmp (w.readArray B T u 0) (w.readLast B T v)) :
    ¬ Touching cmp (abs v) (abs u) := by
  rintro ⟨hv, hu, heq⟩
  rw [(h.kept u).readLast_eq hu, (h.kept v).readArray_eq hv] at h1
  rw [(h.kept u).readArray_eq hu, (h.kept v).readLast_eq hv] at h2
  obtain heq | heq := heq
  · exact h1 heq
  · exact h2 heq

theorem sortedCall_spec (hc : Compares cmp) {c : SortedCall ν α} (h : w.Refines B T abs)
    (hasc : ∀ v, Ascending cmp (abs v)) (hallowed : w.SortedAllowed B T cmp c) :
    Safely (w.sortedCall B T cmp c) fun (w', r) => ∃ refused abs',
      w.sortedRefused B T cmp c = .ok refused ∧ c.Effect T cmp abs refused r abs' ∧
      w'.Refines B T abs' := by
  cases c with
  | plain c =>
    refine (call_spec h hallowed.2).mono ?_
    rintro ⟨w₁, r⟩ ⟨abs', heffect, h₁⟩
    exact ⟨_, abs', rfl, heffect, h₁⟩
  | add v x =>
    obtain ⟨refused, hrefused, hadd⟩ := sortedAdd_spec hc h (hasc v) (.inl rfl)
    refine hadd.mono ?_
    rintro ⟨w₁, r⟩ ⟨-, ⟨rfl, i, rfl, hi, h₁⟩ | ⟨rfl, rfl, h₁⟩⟩
    · exact ⟨false, _, hrefused, .inl ⟨rfl, i, rfl, hi, rfl⟩, h₁⟩
    · exact ⟨true, abs, hrefused, .inr ⟨rfl, rfl, rfl⟩, h₁⟩
  | remove v x =>
    refine (sortedRemove_spec hc h (hasc v) x).mono ?_
    rintro ⟨w₁, r⟩ ⟨refused, hrefused, ⟨i, hi, rfl, heq, abs', hremoved, h₁⟩ | ⟨rfl, hnone, rfl⟩⟩
    · exact ⟨refused, abs', hrefused, .inl ⟨i, hi, rfl, heq, hremoved⟩, h₁⟩
    · exact ⟨refused, abs, hrefused, .inr ⟨rfl, hnone, rfl⟩, h⟩
  | merge v u =>
    refine (merge_spec hc hallowed h (hasc v)).mono ?_
    rintro ⟨w₁, r⟩ ⟨refused, zs, hrefused, hmerged, h₁⟩
    exact ⟨refused, _, hrefused, ⟨zs, hmerged, rfl⟩, h₁⟩
  | mergeSorted v u =>
    obtain ⟨huv, h0, h1, h2⟩ := hallowed
    have hne : abs v ≠ [] := by
      intro hnil
      have hn := (h.kept v).1
      rw [hnil] at hn
      exact h0 hn
    refine (mergeSorted_spec hc huv h (hasc v) (hasc u) hne).mono ?_
    rintro ⟨w₁, r⟩ ⟨refused, zs, hrefused, h₁, ⟨rfl, rfl, hn⟩ | ⟨rfl, hr, hplain, -⟩⟩
    · exact ⟨true, _, hrefused, ⟨_, zs, .inl rfl, .inr ⟨rfl, rfl, hn⟩, rfl⟩, h₁⟩
    · have hzs := hplain (not_touching h h1 h2)
      refine ⟨false, _, hrefused, ⟨.ok 0, zs, ?_, .inl ⟨rfl, rfl, hzs⟩, rfl⟩, h₁⟩
      exact hr.imp Eq.symm fun hr => ⟨hr, rfl⟩

/-! ## Runs -/

/-- The lists of a run in which all stay in order. -/
def SortedLists (T : ItemType α) (cmp : α → α → Int) (abs : ν → List α)
    (e : Event (SortedCall ν α)) (abs' : ν → List α) : Prop :=
  e.call.Effect T cmp abs e.refused e.result abs' ∧ ∀ v, Ascending cmp (abs' v)

/-- The vectors have these lists, which are in order. -/
def InOrder (B : SharedBuffer H P) (T : ItemType α) (cmp : α → α → Int) (w : World H P ν α)
    (abs : ν → List α) : Prop :=
  w.Refines B T abs ∧ ∀ v, Ascending cmp (abs v)

theorem sortedStep_inOrder (hc : Compares cmp) {e : Event (SortedCall ν α)}
    (h : w.InOrder B T cmp abs) (hs : w.sortedStep B T cmp e = some w') :
    ∃ abs', SortedLists T cmp abs e abs' ∧ w'.InOrder B T cmp abs' := by
  obtain ⟨href, hasc⟩ := h
  obtain ⟨⟨hallowed, hask⟩, hcall⟩ := sortedStep_eq_some.mp hs
  have hpost := sortedCall_spec hc href hasc hallowed
  rw [hcall] at hpost
  obtain ⟨refused, abs', hrefused, heffect, href'⟩ := hpost
  obtain rfl : refused = e.refused := Except.ok.inj (hrefused.symm.trans hask)
  have hkind : ∀ d, e.call = .plain d → d.Inherited := by
    intro d hd
    rw [hd] at hallowed
    exact hallowed.1
  have hasc' := effect_ascending hc hkind heffect hasc
  exact ⟨abs', ⟨heffect, hasc'⟩, href', hasc'⟩

/-- Three items, and a copy of the vector that keeps the last one only and gets another one. -/
def adding : List (Event (SortedCall Bool Nat)) :=
  [⟨.add false 5, false, .ok 0⟩, ⟨.add false 9, false, .ok 1⟩, ⟨.add false 2, false, .ok 0⟩,
    ⟨.plain (.copyOf true false), false, .ok 0⟩, ⟨.remove true 2, false, .ok 0⟩,
    ⟨.remove true 5, false, .ok 0⟩, ⟨.add true 12, false, .ok 1⟩]

theorem compares_sub : Compares fun x y : Nat => (x : Int) - y := ⟨by omega, by omega⟩

theorem adding_isSome : (adding.foldlM (sortedStep Counted.buffers objects fun x y => x - y)
    noVectors).isSome = true := by decide +kernel

def added : World Counted Nat Bool Nat :=
  (adding.foldlM (sortedStep Counted.buffers objects fun x y => x - y) noVectors).get adding_isSome

theorem adding_run : Steps (sortedStep Counted.buffers objects fun x y => x - y) noVectors adding
    added := steps_iff_foldlM.mpr (Option.some_get adding_isSome).symm

/-- Where a run of calls leads, the vectors have lists in order. -/
theorem inOrder_of_steps (hc : Compares cmp) {es : List (Event (SortedCall ν α))}
    (h : w.Start B) (hrun : Steps (sortedStep B T cmp) w es w') :
    ∃ abs, w'.InOrder B T cmp abs := by
  have hkeep : ∀ s e s', (∃ abs, s.InOrder B T cmp abs) → sortedStep B T cmp s e = some s' →
      ∃ abs : ν → List α, s'.InOrder B T cmp abs := by
    rintro s e s' ⟨abs, hs⟩ hse
    obtain ⟨abs', -, hs'⟩ := sortedStep_inOrder hc hs hse
    exact ⟨abs', hs'⟩
  exact hrun.invariant hkeep ⟨_, h.refines, fun _ => List.Pairwise.nil⟩

/-- Where the items in front of `k` have a property that those behind do not have, there are `k` of
them. -/
theorem countP_eq_of_split {xs : List α} {P : α → Bool} {k : Nat} (hk : k ≤ xs.length)
    (hfront : ∀ i, (hi : i < xs.length) → i < k → P xs[i] = true)
    (hback : ∀ i, (hi : i < xs.length) → k ≤ i → P xs[i] = false) : xs.countP P = k := by
  have htake : (xs.take k).countP P = k := by
    have hlen : (xs.take k).length = k := List.length_take_of_le hk
    rw [List.countP_eq_length.mpr, hlen]
    intro x hx
    obtain ⟨i, hi, rfl⟩ := List.getElem_of_mem hx
    rw [List.getElem_take]
    exact hfront i (by omega) (by omega)
  have hdrop : (xs.drop k).countP P = 0 := by
    rw [List.countP_eq_zero]
    intro x hx
    obtain ⟨i, hi, rfl⟩ := List.getElem_of_mem hx
    rw [List.getElem_drop, hback (k + i) _ (by omega)]
    simp
  rw [← List.take_append_drop k xs, List.countP_append, htake, hdrop]
  rfl

section Searching

omit [DecidableEq ν]

/-- `indexOf` finds the item that is equal, if there is one, and `orderOf` counts the smaller
ones. -/
theorem indexOf_spec (hc : Compares cmp) (h : w.Refines B T abs) (hasc : Ascending cmp (abs v))
    (x : α) :
    w.orderOf B T cmp v x = .ok ((abs v).countP fun y => cmp y x < 0) ∧
      ((∃ i, ∃ hi : i < (abs v).length, w.indexOf B T cmp v x = .ok (.ok i) ∧
          cmp (abs v)[i] x = 0) ∨
        (w.indexOf B T cmp v x = .ok (.error .nameNotFound) ∧ ∀ y ∈ abs v, cmp y x ≠ 0)) := by
  obtain ⟨⟨index, order⟩, heq, hfound⟩ := indexOrderOf_spec hc hasc (h.kept v) x
  simp only [orderOf, indexOf, heq, bind, Except.bind, pure, Except.pure]
  obtain ⟨i, hi, hlt, hequal⟩ | ⟨rfl, hle, hall⟩ := hfound
  · cases hi
    refine ⟨?_, .inl ⟨_, hlt, rfl, hequal⟩⟩
    rw [countP_eq_of_split hlt.le]
    · intro j hj hji
      simpa using hc.lt_of_lt_of_le (hasc.lt hji hlt) hequal.le
    · intro j hj hij
      obtain hij | rfl := Nat.lt_or_eq_of_le hij
      · have hxi := hc.eq_symm hequal
        have := (hc.symm _ _).mp (hc.lt_of_le_of_lt hxi.le (hasc.lt hij hj))
        simpa using this.le
      · simp [hequal]
  · have hcount : (abs v).countP (fun y => cmp y x < 0) = order := by
      refine countP_eq_of_split hle (fun j hj hjo => ?_) fun j hj hoj => ?_
      · simpa using (hall j hj).1 hjo
      · simpa using ((hall j hj).2 hoj).le
    refine ⟨by rw [hcount], .inr ⟨rfl, fun y hy => ?_⟩⟩
    obtain ⟨j, hj, rfl⟩ := List.getElem_of_mem hy
    by_cases hjo : j < order
    · exact ((hall j hj).1 hjo).ne
    · exact ((hall j hj).2 (by omega)).ne'

end Searching

/-- An item of three, and one that is not there. -/
theorem indexOf_spec_added : ∃ abs : Bool → List Nat,
    added.Refines Counted.buffers objects abs ∧
    ∀ x ∈ [5, 7],
      added.orderOf Counted.buffers objects (fun x y => x - y) false x =
          .ok ((abs false).countP fun y : Nat => (y : Int) - x < 0) ∧
        ((∃ i, ∃ hi : i < (abs false).length,
            added.indexOf Counted.buffers objects (fun x y => x - y) false x = .ok (.ok i) ∧
            ((abs false)[i] : Int) - x = 0) ∨
          (added.indexOf Counted.buffers objects (fun x y => x - y) false x =
            .ok (.error .nameNotFound) ∧ ∀ y ∈ abs false, (y : Int) - x ≠ 0)) := by
  obtain ⟨abs, h⟩ := inOrder_of_steps compares_sub noVectors_start adding_run
  exact ⟨abs, h.1, fun x _ => indexOf_spec compares_sub h.1 (h.2 false) x⟩

/-! ## Merging -/

/-- The short cuts of a merge give the same as the plain merge unless an item is at the end of both
vectors, where only the plain merge has it once. -/
theorem short_cuts_agree (hc : Compares cmp) (huv : u ≠ v) (h : w.Refines B T abs)
    (hv : Ascending cmp (abs v)) (hu : Ascending cmp (abs u)) (hne : abs v ≠ [])
    {w₁ w₂ : World H P ν α} {i j : Nat} (hfast : w.mergeSorted B T cmp v u = .ok (w₁, .ok i))
    (hplain : w.merge B T cmp v u = .ok (w₂, .ok j)) :
    ∃ xs ys, w₁.Refines B T (Function.update abs v xs) ∧
      w₂.Refines B T (Function.update abs v ys) ∧ (xs = ys ↔ ¬ Touching cmp (abs v) (abs u)) := by
  have hfast' := mergeSorted_spec hc huv h hv hu hne
  have hplain' := merge_spec hc huv h hv
  rw [hfast] at hfast'
  rw [hplain] at hplain'
  obtain ⟨_, xs, -, hxs, ⟨-, hr, -⟩ | ⟨-, -, hsame, hdouble⟩⟩ := hfast'
  · cases hr
  · obtain ⟨_, ys, -, ⟨-, -, rfl⟩ | ⟨-, hr, -⟩, hys⟩ := hplain'
    · refine ⟨xs, _, hxs, hys, fun heq htouch => (hdouble htouch).2 ?_, hsame⟩
      rw [heq]
      exact Ascending.foldl_put hc hv (abs u)
    · cases hr

theorem ok_of_isSome {ε σ τ κ : Type} {r : Except ε (σ × Except τ κ)}
    (h : (r.toOption.bind fun x => x.2.toOption).isSome = true) : ∃ s i, r = .ok (s, .ok i) := by
  cases r with
  | error f => simp [Except.toOption] at h
  | ok x =>
    obtain ⟨s, r⟩ := x
    cases r with
    | error e => simp [Except.toOption] at h
    | ok i => exact ⟨s, i, rfl⟩

/-- The last item of the target is the first one of the other vector. -/
theorem short_cuts_agree_added : ∃ (w₁ w₂ : World Counted Nat Bool Nat) (xs ys : List Nat)
    (abs : Bool → List Nat),
    (abs false).length = 3 ∧ (abs true).length = 2 ∧
    w₁.Refines Counted.buffers objects (Function.update abs false xs) ∧
      w₂.Refines Counted.buffers objects (Function.update abs false ys) ∧
      (xs = ys ↔ ¬ Touching (fun x y : Nat => (x : Int) - y) (abs false) (abs true)) := by
  obtain ⟨abs, h⟩ := inOrder_of_steps compares_sub noVectors_start adding_run
  obtain ⟨w₁, i, hfast⟩ := ok_of_isSome (show ((added.mergeSorted Counted.buffers objects
    (fun x y => x - y) false true).toOption.bind fun x => x.2.toOption).isSome = true by
      decide +kernel)
  obtain ⟨w₂, j, hplain⟩ := ok_of_isSome (show ((added.merge Counted.buffers objects
    (fun x y => x - y) false true).toOption.bind fun x => x.2.toOption).isSome = true by
      decide +kernel)
  have hfalse : added.size false = 3 := by decide +kernel
  have htrue : added.size true = 2 := by decide +kernel
  have hlen : (abs false).length = 3 := (h.1.kept false).1.symm.trans hfalse
  have hne : abs false ≠ [] := List.ne_nil_of_length_pos (by omega)
  obtain ⟨xs, ys, hxs, hys, hiff⟩ := short_cuts_agree compares_sub (show true ≠ false by decide)
    h.1 (h.2 false) (h.2 true) hne hfast hplain
  exact ⟨w₁, w₂, xs, ys, abs, hlen, (h.1.kept true).1.symm.trans htrue, hxs, hys, hiff⟩

/-- The vector that has the three items loses them. -/
def clearing : List (Event (SortedCall Bool Nat)) :=
  adding ++ [⟨.plain (.clear false), false, .ok 0⟩]

theorem clearing_isSome : (clearing.foldlM (sortedStep Counted.buffers objects fun x y => x - y)
    noVectors).isSome = true := by decide +kernel

def cleared : World Counted Nat Bool Nat :=
  (clearing.foldlM (sortedStep Counted.buffers objects fun x y => x - y) noVectors).get
    clearing_isSome

end World
end Vector
end Huashan
