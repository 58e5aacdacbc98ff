import Huashan.Vector.Growth

/-!
# Huashan.Vector.Sort

`sort` in the storage of a vector is insertion sort on its list of items, if there is memory for the
item that is moved or no item has to be moved: `sort_spec`. The list is sorted from the left, so
its reverse is what `List.insertionSort` sorts.
-/

namespace Huashan
namespace Vector

section Lists

variable {α : Type} (cmp : α → α → Int)

/-- `y` can stand in front of `x`. -/
def NotGreater (x y : α) : Prop := cmp y x ≤ 0

instance : DecidableRel (NotGreater cmp) := fun _ _ => inferInstanceAs (Decidable (_ ≤ _))

/-- The items in the order in which `sort` leaves them. -/
def sorted (xs : List α) : List α := (xs.reverse.insertionSort (NotGreater cmp)).reverse

variable {cmp} {xs zs : List α}

theorem sorted_perm : (sorted cmp xs).Perm xs :=
  (List.reverse_perm _).trans ((List.perm_insertionSort _ _).trans (List.reverse_perm _))

theorem sorted_pairwise (htotal : ∀ x y, cmp x y ≤ 0 ∨ cmp y x ≤ 0)
    (htrans : ∀ x y z, cmp x y ≤ 0 → cmp y z ≤ 0 → cmp x z ≤ 0) :
    (sorted cmp xs).Pairwise fun x y => cmp x y ≤ 0 := by
  have : Std.Total (NotGreater cmp) := ⟨fun x y => (htotal y x)⟩
  have : IsTrans α (NotGreater cmp) := ⟨fun x y z hxy hyz => htrans z y x hyz hxy⟩
  rw [sorted, List.pairwise_reverse]
  exact List.pairwise_insertionSort (NotGreater cmp) xs.reverse

/-- What is in order among the items stays in that order. -/
theorem sorted_stable (hsub : zs.Sublist xs) (hzs : zs.Pairwise fun x y => cmp x y ≤ 0) :
    zs.Sublist (sorted cmp xs) := by
  have hreverse : zs.reverse.Pairwise (NotGreater cmp) := List.pairwise_reverse.mpr hzs
  have hstable := List.sublist_insertionSort hreverse hsub.reverse
  simpa [sorted] using hstable.reverse

end Lists

namespace World

variable {H P ν α : Type} [DecidableEq P] [DecidableEq ν] [Fintype ν]
variable {B : SharedBuffer H P} {T : ItemType α} {w w' : World H P ν α}
variable {u v : ν} {p q : P} {abs : ν → List α} {xs ys : List α}

/-- The vector has `q` alone, with the items `xs`. -/
structure Sole (B : SharedBuffer H P) (T : ItemType α) (w : World H P ν α) (v : ν) (q : P)
    (abs : ν → List α) (xs : List α) : Prop where
  owns : w.Owns B T v q abs
  holds : w.Holds B T q xs
  size : w.size v = xs.length

theorem Sole.refines (h : w.Sole B T v q abs xs) : w.Refines B T (Function.update abs v xs) :=
  h.owns.refines_of_holds h.holds h.size

/-! ## Single items -/

omit [DecidableEq ν] [Fintype ν] in
theorem Holds.readItem_eq (hx : w.Holds B T p xs) {i : Nat} (hi : i < xs.length) :
    w.readItem B T p i = .ok xs[i] := by
  have hroom := hx.room
  have hslot := hx.filled i hi
  rw [Nat.zero_add] at hslot
  rw [readItem, if_pos ⟨by omega, by simp [hslot]⟩, hslot]
  rfl

/-- An item is replaced by a value, or by one of the items in front of it. -/
theorem Sole.replaceItem (h : w.Sole B T v q abs xs) {i : Nat} (hi : i < xs.length)
    {src : Source P α} {x : α}
    (hsrc : src = .values [x] ∨ ∃ j, ∃ hj : j < i, src = .storage q j ∧ x = xs[j]) :
    ∃ w', w.replaceItem B T q i src = .ok w' ∧ w'.Sole B T v q abs (xs.set i x) := by
  obtain ⟨w₁, hdestroy, -, hgap⟩ := destroyed_gap h.owns h.holds h.size hi
  have hlen : (xs.take i ++ xs.drop (i + 1)).length + 1 = xs.length := by
    simp
    omega
  have hread : w₁.Readable B T src 1 ∧ Apart q i 1 src 1 ∧ w₁.items src 1 = [x] := by
    obtain rfl | ⟨j, hj, rfl, rfl⟩ := hsrc
    · exact ⟨le_rfl, trivial, rfl⟩
    · have hroom := hgap.room
      have hfront := hgap.front
      have hjx : j < ((xs.take i ++ xs.drop (i + 1)).take i).length := by
        simp
        omega
      have hslot := hfront j hjx
      rw [Nat.zero_add] at hslot
      have hx : ((xs.take i ++ xs.drop (i + 1)).take i)[j] = xs[j] := by
        rw [List.getElem_take, List.getElem_append_left (by simp; omega), List.getElem_take]
      refine ⟨⟨by omega, .inr fun k hk => ?_⟩, fun _ => .inr (by omega), ?_⟩
      · obtain rfl : k = 0 := by omega
        simp [hslot]
      · simp [items, Block.read, hslot, hx]
  obtain ⟨hreadable, hapart, hitems⟩ := hread
  have hroom := hgap.room
  refine ⟨_, ?_, hgap.owns.setMem ((w₁.mem q).build i [x]), hgap.replace_holds hi, ?_⟩
  · simp only [World.replaceItem, hdestroy, bind, Except.bind]
    rw [doCopy_eq (by omega) hreadable hapart hgap.vacant, hitems]
  · have hcount := hgap.count
    simp [World.size] at hcount ⊢
    omega

/-! ## One pass -/

/-- The item behind those in `ys`, of which the last is `y`, is sorted in among them. -/
theorem shiftBack_spec (cmp : α → α → Int) (x y c : α) (ys zs : List α)
    (h : w.Sole B T v q abs (ys.reverse ++ y :: c :: zs)) :
    ∃ w', shiftBack B T cmp q x ys.length w = .ok w' ∧
      w'.Sole B T v q abs ((ys.orderedInsert (NotGreater cmp) x).reverse ++ y :: zs) := by
  induction ys generalizing w y c zs with
  | nil =>
    obtain ⟨w₁, heq₁, h₁⟩ := h.replaceItem (i := 1) (x := y) (by simp)
      (.inr ⟨0, by omega, rfl, by simp⟩)
    obtain ⟨w₂, heq₂, h₂⟩ := h₁.replaceItem (i := 0) (x := x) (by simp) (.inl rfl)
    refine ⟨w₂, ?_, by simpa using h₂⟩
    simp only [List.length_nil, shiftBack, heq₁, heq₂, bind, Except.bind]
  | cons y' ys ih =>
    obtain ⟨w₁, heq₁, h₁⟩ := h.replaceItem (i := ys.length + 2) (x := y) (by simp)
      (.inr ⟨ys.length + 1, by omega, rfl, by simp⟩)
    have hset : ((y' :: ys).reverse ++ y :: c :: zs).set (ys.length + 2) y =
        ys.reverse ++ y' :: y :: y :: zs := by
      simp
    rw [hset] at h₁
    have hread : w₁.readItem B T q ys.length = .ok y' := by
      rw [h₁.holds.readItem_eq (by simp)]
      simp
    simp only [List.length_cons, shiftBack, heq₁, hread, bind, Except.bind]
    by_cases hcmp : cmp y' x > 0
    · obtain ⟨w₂, heq₂, h₂⟩ := ih y' y (y :: zs) h₁
      have hnot : ¬ NotGreater cmp x y' := by
        rw [NotGreater]
        omega
      refine ⟨w₂, by rw [if_pos hcmp, heq₂], ?_⟩
      simpa [List.orderedInsert_cons, hnot] using h₂
    · obtain ⟨w₂, heq₂, h₂⟩ := h₁.replaceItem (i := ys.length + 1) (x := x) (by simp) (.inl rfl)
      have hle : NotGreater cmp x y' := by
        rw [NotGreater]
        omega
      refine ⟨w₂, by rw [if_neg hcmp, heq₂], ?_⟩
      have hset' : (ys.reverse ++ y' :: y :: y :: zs).set (ys.length + 1) x =
          ys.reverse ++ y' :: x :: y :: zs := by
        simp
      rw [hset'] at h₂
      simpa [List.orderedInsert_cons, hle] using h₂

/-! ## The whole loop -/

/-- The items of `rest` are sorted in among those of `acc`, which are in reverse order. -/
def inserted (cmp : α → α → Int) (acc rest : List α) : List α :=
  (rest.foldl (fun acc x => acc.orderedInsert (NotGreater cmp) x) acc).reverse

theorem inserted_nil (cmp : α → α → Int) (xs : List α) : inserted cmp [] xs = sorted cmp xs := by
  rw [inserted, sorted, List.insertionSort, List.foldr_reverse]

theorem Refines.sole (h : w.Refines B T (Function.update abs v xs))
    (hs : (w.vec v).mStorage = some q) (h1 : B.refs w.heap q = 1) : w.Sole B T v q abs xs := by
  obtain ⟨hr, hk⟩ := (refines_iff_rest (v := v)).mp h
  rw [Function.update_self] at hk
  have hrest : w.Rest B T v [q] abs := by
    refine ⟨by simpa [hs] using hr.counts, hr.freed, hr.raw, fun u hu => ?_⟩
    have hu' := hr.kept u hu
    rwa [Function.update_of_ne hu] at hu'
  exact ⟨⟨hrest, hs, h1⟩, by simpa [hs] using hk.2, hk.1⟩

theorem Refines.holds (h : w.Refines B T (Function.update abs v xs))
    (hs : (w.vec v).mStorage = some q) : w.Holds B T q xs ∧ w.size v = xs.length := by
  have hk := h.kept v
  rw [Function.update_self] at hk
  exact ⟨by simpa [hs] using hk.2, hk.1⟩

/-- The array is editable before the first item is moved. -/
theorem edited_spec {temp : Option α} (h : w.Refines B T (Function.update abs v xs))
    (hs : (w.vec v).mStorage = some p) (htemp : temp ≠ none → B.refs w.heap p = 1) :
    Safely (match temp with
      | none => w.editArrayImpl B T v
      | some _ => .ok (w, some p)) fun (w', o) =>
      ∃ q, o = some q ∧ w'.Sole B T v q abs xs := by
  cases temp with
  | some x => exact ⟨p, rfl, h.sole hs (htemp (by simp))⟩
  | none =>
    obtain ⟨hr, hk⟩ := (refines_iff_rest (v := v)).mp h
    rw [Function.update_self] at hk
    refine (editArrayImpl_spec hr hk).mono ?_
    rintro ⟨w₁, o⟩ ⟨hframe, hsize, -, hpost⟩
    cases o with
    | none =>
      rw [hs] at hpost
      cases hpost.2
    | some q =>
      obtain ⟨howns, hx, -⟩ := hpost
      have hrefines := howns.refines_of_holds hx (hsize.trans hk.1)
      rw [Function.update_idem] at hrefines
      exact ⟨q, rfl, hrefines.sole howns.storage howns.sole⟩

/-- `temp` is needed for the first item that is smaller than the one in front of it. -/
theorem sortFrom_spec (cmp : α → α → Int) (malloc : Bool) (y : α) (ys rest : List α)
    (temp : Option α) (h : w.Refines B T (Function.update abs v ((y :: ys).reverse ++ rest)))
    (hs : (w.vec v).mStorage = some p) (htemp : temp ≠ none → B.refs w.heap p = 1) :
    Safely (sortFrom B T v cmp malloc rest.length w p temp) fun (w', r) =>
      ((temp ≠ none ∨ malloc ∨ (y :: rest).IsChain fun x y => cmp x y ≤ 0) ∧ r = .ok 0 ∧
        w'.Refines B T (Function.update abs v (inserted cmp (y :: ys) rest))) ∨
      (temp = none ∧ malloc = false ∧ ¬ (y :: rest).IsChain (fun x y => cmp x y ≤ 0) ∧
        r = .error .noMemory ∧
        w'.Refines B T (Function.update abs v ((y :: ys).reverse ++ rest))) := by
  induction rest generalizing w p y ys temp with
  | nil => exact .inl ⟨.inr (.inr (.singleton y)), rfl, by simpa [inserted] using h⟩
  | cons x rest ih =>
    obtain ⟨hx, hn⟩ := h.holds hs
    have hi : w.size v - (rest.length + 1) = ys.length + 1 := by
      simp at hn
      omega
    have hitem : w.readItem B T p (ys.length + 1) = .ok x := by
      rw [hx.readItem_eq (by simp)]
      simp
    have hcurr : w.readItem B T p ys.length = .ok y := by
      rw [hx.readItem_eq (by simp)]
      simp
    simp only [List.length_cons, sortFrom, hi, Nat.add_sub_cancel, hitem, hcurr]
    simp only [bind, Except.bind]
    have hread : ∀ {q : P} {w₁ : World H P ν α},
        w₁.Sole B T v q abs ((y :: ys).reverse ++ x :: rest) →
        w₁.readItem B T q (ys.length + 1) = .ok x := by
      intro q w₁ hsole
      rw [hsole.holds.readItem_eq (by simp)]
      simp
    by_cases hcmp : cmp y x > 0
    · -- the item is out of order
      have hnot : ¬ NotGreater cmp x y := by
        rw [NotGreater]
        omega
      rw [if_pos hcmp]
      refine Safely.bind _ (edited_spec h hs htemp) ?_
      rintro ⟨w₁, o⟩ ⟨q, rfl, hsole⟩
      by_cases hmem : (temp.isNone && !malloc) = true
      · simp only [hmem, if_true]
        simp only [Bool.and_eq_true, Option.isNone_iff_eq_none, Bool.not_eq_true'] at hmem
        refine .inr ⟨hmem.1, hmem.2, fun hchain => ?_, rfl, hsole.refines⟩
        have hle := (List.isChain_cons_cons.mp hchain).1
        omega
      · have hlist : (y :: ys).reverse ++ x :: rest = ys.reverse ++ y :: x :: rest := by simp
        have hread₁ := hread hsole
        rw [hlist] at hsole
        obtain ⟨w₂, heq, hsole₂⟩ := shiftBack_spec cmp x y x ys rest hsole
        have hacc : (y :: ys).orderedInsert (NotGreater cmp) x =
            y :: ys.orderedInsert (NotGreater cmp) x := by
          simp [List.orderedInsert_cons, hnot]
        have hlist' : (ys.orderedInsert (NotGreater cmp) x).reverse ++ y :: rest =
            (y :: ys.orderedInsert (NotGreater cmp) x).reverse ++ rest := by simp
        rw [hlist'] at hsole₂
        simp only [hmem, Bool.false_eq_true, if_false, hread₁, heq]
        refine (ih y (ys.orderedInsert (NotGreater cmp) x) (some x) hsole₂.refines
          hsole₂.owns.storage fun _ => hsole₂.owns.sole).mono ?_
        rintro ⟨w₃, r⟩ (⟨-, rfl, hdone⟩ | ⟨hnone, -⟩)
        · refine .inl ⟨?_, rfl, ?_⟩
          · rw [Bool.and_eq_true, Option.isNone_iff_eq_none, Bool.not_eq_true', not_and] at hmem
            by_cases htemp : temp = none
            · exact .inr (.inl (Bool.eq_true_of_not_eq_false (hmem htemp)))
            · exact .inl htemp
          · rwa [inserted, List.foldl_cons, hacc]
        · cases hnone
    · have hle : NotGreater cmp x y := by
        rw [NotGreater]
        omega
      have hacc' : (y :: ys).orderedInsert (NotGreater cmp) x = x :: y :: ys := by
        simp [List.orderedInsert_cons, hle]
      have hlist : (y :: ys).reverse ++ x :: rest = (x :: y :: ys).reverse ++ rest := by simp
      rw [if_neg hcmp, hlist]
      rw [hlist] at h
      have hchain : (y :: x :: rest).IsChain (fun x y => cmp x y ≤ 0) ↔
          (x :: rest).IsChain fun x y => cmp x y ≤ 0 :=
        List.isChain_cons_cons.trans (and_iff_right (by omega))
      have hrest := ih x (y :: ys) temp h hs htemp
      simpa only [inserted, List.foldl_cons, hacc', hchain] using hrest

omit [Fintype ν] in
/-- Items that are in order are only compared. -/
theorem sortFrom_of_sorted {cmp : α → α → Int} {malloc : Bool} (hx : w.Holds B T p xs)
    (hn : w.size v = xs.length)
    (hsorted : ∀ i, (hi : i + 1 < xs.length) → cmp xs[i] xs[i + 1] ≤ 0) (temp : Option α) (n : Nat)
    (hlt : n < xs.length) : sortFrom B T v cmp malloc n w p temp = .ok (w, .ok 0) := by
  induction n with
  | zero => rfl
  | succ n ih =>
    obtain ⟨i, hi⟩ : ∃ i, w.size v - (n + 1) = i + 1 := ⟨xs.length - n - 2, by omega⟩
    have hle := hsorted i (by omega)
    simp only [sortFrom, hi, Nat.add_sub_cancel]
    rw [hx.readItem_eq (by omega), hx.readItem_eq (by omega)]
    simp only [bind, Except.bind]
    rw [if_neg (by omega)]
    exact ih (by omega)

/-- The items are sorted; or they are not in order, there is no memory to sort them, and they are
as before. -/
theorem sort_spec (cmp : α → α → Int) (malloc : Bool) (h : w.Refines B T abs) :
    Safely (w.sort B T v cmp malloc) fun (w', r) =>
      ((malloc ∨ (abs v).IsChain fun x y => cmp x y ≤ 0) ∧ r = .ok 0 ∧
        w'.Refines B T (Function.update abs v (sorted cmp (abs v)))) ∨
      (malloc = false ∧ ¬ (abs v).IsChain (fun x y => cmp x y ≤ 0) ∧ r = .error .noMemory ∧
        w'.Refines B T abs) := by
  have hn : w.size v = (abs v).length := (h.kept v).1
  rw [sort]
  generalize hxs : abs v = xs at hn
  have hupdate : Function.update abs v xs = abs := by rw [← hxs, Function.update_eq_self]
  by_cases hlt : 1 < w.size v
  · rw [if_pos hlt]
    cases hs : (w.vec v).mStorage with
    | none =>
      have hnil : xs = [] := by simpa [hs, hxs] using (h.kept v).2
      simp [hnil] at hn
      omega
    | some p =>
      obtain ⟨x, rest, rfl⟩ := List.exists_cons_of_length_pos (by omega : 0 < xs.length)
      have hsize : w.size v - 1 = rest.length := by
        rw [hn]
        simp
      have h' : w.Refines B T (Function.update abs v ([x].reverse ++ rest)) := by
        simpa only [List.reverse_singleton, List.singleton_append, hupdate] using h
      simp only [hsize]
      refine (sortFrom_spec cmp malloc x [] rest none h' hs (by simp)).mono ?_
      rintro ⟨w₁, r⟩ (⟨hmem, rfl, hdone⟩ | ⟨-, hm, hchain, rfl, hsame⟩)
      · have hmem := hmem.resolve_left (not_not.mpr rfl)
        exact .inl ⟨hmem, rfl, by rw [← inserted_nil]; exact hdone⟩
      · refine .inr ⟨hm, hchain, rfl, ?_⟩
        simpa only [List.reverse_singleton, List.singleton_append, hupdate] using hsame
  · rw [if_neg hlt]
    have hshort : xs.IsChain (fun x y => cmp x y ≤ 0) ∧ sorted cmp xs = xs := by
      cases xs with
      | nil => exact ⟨.nil, rfl⟩
      | cons x xs =>
        have hnil : xs = [] := List.eq_nil_of_length_eq_zero (by simp at hn; omega)
        subst hnil
        exact ⟨.singleton x, rfl⟩
    refine .inl ⟨.inr hshort.1, rfl, ?_⟩
    rw [hshort.2, hupdate]
    exact h

end World
end Vector
end Huashan
