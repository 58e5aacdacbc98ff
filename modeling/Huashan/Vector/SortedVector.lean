import Huashan.Vector.Operations

/-!
# Huashan.Vector.SortedVector

`SortedVectorImpl`: the items are in the order of `do_compare`, and no two of them are equal.

* `indexOrderOf_spec`: the binary search finds the item or its place.
* `sortedAdd_spec`, `sortedRemove_spec`, `merge_spec`, `mergeSorted_spec`: what `add`, `remove` and
  the two `merge`s do to the items, and that only a refusal of memory keeps them from it.
* `put`: the list after `add`.
-/

namespace Huashan
namespace Vector

namespace World

variable {H P ν α : Type} [DecidableEq P] [DecidableEq ν]

section Model

variable (B : SharedBuffer H P) (T : ItemType α) (cmp : α → α → Int) (w : World H P ν α)

/-- An item as `do_compare` gets it. -/
def readSource (src : Source P α) : Except Fault α :=
  match src with
  | .values (x :: _) => .ok x
  | .values [] => .error .undefined
  | .storage p i => w.readItem B T p i

/-- An item of the array of a vector, which may be a null pointer. -/
def readArray (v : ν) (i : Nat) : Except Fault α :=
  match (w.vec v).mStorage with
  | none => .error .undefined
  | some p => w.readItem B T p i

/-- The last item of a vector: without items, its location is a null pointer. -/
def readLast (v : ν) : Except Fault α :=
  if w.size v = 0 then .error .undefined else w.readArray B T v (w.size v - 1)

/-- The loop of `_indexOrderOf`: the index of an equal item, if there is one, and the order. -/
def search (v : ν) (item : α) : Nat → Int → Int → Except Fault (Option Nat × Nat)
  | 0, l, _ => .ok (none, l.toNat)
  | n + 1, l, h => do
    if l ≤ h then
      let mid := l + (h - l) / 2
      let curr ← w.readArray B T v mid.toNat
      if cmp curr item = 0 then return (some mid.toNat, mid.toNat)
      else if cmp curr item < 0 then search v item n (mid + 1) h
      else search v item n l (mid - 1)
    else return (none, l.toNat)

/-- The range is smaller by one item at least after each comparison. -/
def indexOrderOf (v : ν) (item : α) : Except Fault (Option Nat × Nat) :=
  w.search B T cmp v item (w.size v + 1) 0 (w.size v - 1)

def indexOf (v : ν) (item : α) : Except Fault (Except Status Nat) := do
  match (← w.indexOrderOf B T cmp v item).1 with
  | some i => return .ok i
  | none => return .error .nameNotFound

def orderOf (v : ν) (item : α) : Except Fault Nat := do
  return (← w.indexOrderOf B T cmp v item).2

def sortedAdd (v : ν) (src : Source P α) : Except Fault (World H P ν α × Result) := do
  let item ← w.readSource B T src
  let (index, order) ← w.indexOrderOf B T cmp v item
  match index with
  | none => w.insertAt B T v (some src) order 1
  | some index => w.replaceAt B T v (some src) index

/-- The naive merge, when the items from `i` on in the buffer `p` are left. -/
def mergeFrom (v : ν) (p : P) : Nat → Nat → World H P ν α → Except Fault (World H P ν α × Result)
  | 0, _, w => .ok (w, .ok 0)
  | n + 1, i, w => do
    let (w, r) ← w.sortedAdd B T cmp v (.storage p i)
    match r with
    | .error e => return (w, .error e)
    | .ok _ => mergeFrom v p n (i + 1) w

/-- `merge(const VectorImpl&)` -/
def merge (v u : ν) : Except Fault (World H P ν α × Result) :=
  if w.size u = 0 then .ok (w, .ok 0)
  else
    match (w.vec u).mStorage with
    | none => .error .undefined
    | some p => mergeFrom B T cmp v p (w.size u) 0 w

/-- `merge(const SortedVectorImpl&)` -/
def mergeSorted (v u : ν) : Except Fault (World H P ν α × Result) := do
  if w.size u = 0 then return (w, .ok 0)
  else
    let last ← w.readLast B T u
    let front ← w.readArray B T v 0
    if cmp last front ≤ 0 then w.insertVectorAt B T v u 0
    else
      let first ← w.readArray B T u 0
      let back ← w.readLast B T v
      if 0 ≤ cmp first back then w.appendVector B T v u
      else w.merge B T cmp v u

def sortedRemove (v : ν) (item : α) : Except Fault (World H P ν α × Result) := do
  match ← w.indexOf B T cmp v item with
  | .error e => return (w, .error e)
  | .ok i =>
    let (w, _) ← w.removeItemsAt B T v i 1
    return (w, .ok i)

/-! ## Refused memory -/

/-- There is no memory for the storage that `add` asks for, which it does for a new item only. -/
def addRefused (v : ν) (item : α) : Except Fault Bool := do
  let (index, order) ← w.indexOrderOf B T cmp v item
  return index.isNone && w.growRefused B T v order 1

/-- One of the items of the naive merge is refused. -/
def mergeFromRefused (v : ν) (p : P) : Nat → Nat → World H P ν α → Except Fault Bool
  | 0, _, _ => .ok false
  | n + 1, i, w => do
    let item ← w.readItem B T p i
    let refused ← w.addRefused B T cmp v item
    if refused then return true
    else
      let (w, _) ← w.sortedAdd B T cmp v (.storage p i)
      mergeFromRefused v p n (i + 1) w

def mergeRefused (v u : ν) : Except Fault Bool :=
  match (w.vec u).mStorage with
  | none => .ok false
  | some p => mergeFromRefused B T cmp v p (w.size u) 0 w

/-- A short cut asks for room for all items at once. -/
def mergeSortedRefused (v u : ν) : Except Fault Bool := do
  if w.size u = 0 then return false
  else
    let last ← w.readLast B T u
    let front ← w.readArray B T v 0
    if cmp last front ≤ 0 then return w.growRefused B T v 0 (w.size u)
    else
      let first ← w.readArray B T u 0
      let back ← w.readLast B T v
      if 0 ≤ cmp first back then return w.growRefused B T v (w.size v) (w.size u)
      else w.mergeRefused B T cmp v u

def removeRefused (v : ν) (item : α) : Except Fault Bool := do
  match (← w.indexOrderOf B T cmp v item).1 with
  | none => return false
  | some i => return w.shrinkRefused B T v i 1

end Model

end World

/-! ## Sorted lists -/

section Lists

variable {α : Type} (cmp : α → α → Int)

/-- `do_compare` is a comparison by some order of the items. -/
structure Compares : Prop where
  symm : ∀ x y, cmp x y < 0 ↔ 0 < cmp y x
  trans : ∀ x y z, cmp x y ≤ 0 → cmp y z ≤ 0 → cmp x z ≤ 0

def Ascending (xs : List α) : Prop := xs.Pairwise fun x y => cmp x y < 0

/-- The list with `x` in its place, and without an item that is equal to it. -/
def put (x : α) : List α → List α
  | [] => [x]
  | y :: ys =>
    if cmp y x < 0 then y :: put x ys
    else if cmp y x = 0 then x :: ys
    else x :: y :: ys

variable {cmp} {x y z : α} {xs ys zs : List α}

namespace Compares

variable (hc : Compares cmp)

include hc

theorem lt_of_lt_of_le (hxy : cmp x y < 0) (hyz : cmp y z ≤ 0) : cmp x z < 0 := by
  by_contra hn
  have hzx : cmp z x ≤ 0 := by
    by_contra hpos
    have := (hc.symm x z).mpr (by omega)
    omega
  have := hc.trans y z x hyz hzx
  have := (hc.symm x y).mp hxy
  omega

theorem lt_of_le_of_lt (hxy : cmp x y ≤ 0) (hyz : cmp y z < 0) : cmp x z < 0 := by
  by_contra hn
  have hzx : cmp z x ≤ 0 := by
    by_contra hpos
    have := (hc.symm x z).mpr (by omega)
    omega
  have := hc.trans z x y hzx hxy
  have := (hc.symm y z).mp hyz
  omega

theorem eq_symm (h : cmp x y = 0) : cmp y x = 0 := by
  have h1 := hc.symm x y
  have h2 := hc.symm y x
  omega

end Compares

/-- Everything in front of an item is smaller than it and everything behind it is larger. -/
theorem put_of_order {k : Nat} (hk : k ≤ xs.length)
    (hbelow : ∀ i, (hi : i < k) → cmp (xs[i]) x < 0)
    (habove : ∀ i, k ≤ i → (hi : i < xs.length) → 0 < cmp xs[i] x) :
    put cmp x xs = xs.take k ++ [x] ++ xs.drop k := by
  induction xs generalizing k with
  | nil => simp [put]
  | cons y ys ih =>
    cases k with
    | zero =>
      have := habove 0 (by omega) (by simp)
      simp only [List.getElem_cons_zero] at this
      rw [put, if_neg (by omega), if_neg (by omega)]
      rfl
    | succ k =>
      have hy : cmp y x < 0 := by simpa using hbelow 0 (by omega)
      have hrest := ih (k := k) (by simpa using hk)
        (fun i hi => by simpa using hbelow (i + 1) (by omega))
        (fun i hi hl => habove (i + 1) (by omega) (by simpa using hl))
      rw [put, if_pos hy, hrest]
      rfl

theorem put_of_equal {i : Nat} (hi : i < xs.length) (heq : cmp xs[i] x = 0)
    (hbelow : ∀ j, (hj : j < i) → cmp (xs[j]) x < 0) :
    put cmp x xs = xs.set i x := by
  induction xs generalizing i with
  | nil => simp at hi
  | cons y ys ih =>
    cases i with
    | zero =>
      have : cmp y x = 0 := heq
      rw [put, if_neg (by omega), if_pos this]
      rfl
    | succ i =>
      have hy : cmp y x < 0 := by simpa using hbelow 0 (by omega)
      have hrest := ih (i := i) (by simpa using hi) (by simpa using heq)
        (fun j hj => by simpa using hbelow (j + 1) (by omega))
      rw [put, if_pos hy, hrest]
      rfl

theorem Ascending.lt (h : Ascending cmp xs) {i j : Nat} (hij : i < j) (hj : j < xs.length) :
    cmp (xs[i]) xs[j] < 0 :=
  List.pairwise_iff_getElem.mp h i j (by omega) hj hij

theorem mem_put (h : y ∈ put cmp x xs) : y = x ∨ y ∈ xs := by
  induction xs with
  | nil => simpa [put] using h
  | cons z zs ih =>
    rw [put] at h
    split at h
    · obtain rfl | h := List.mem_cons.mp h
      · exact .inr List.mem_cons_self
      · exact (ih h).imp_right (List.mem_cons_of_mem z)
    · split at h
      · exact (List.mem_cons.mp h).imp_right (List.mem_cons_of_mem z)
      · exact List.mem_cons.mp h

theorem Ascending.put (hc : Compares cmp) (h : Ascending cmp xs) :
    Ascending cmp (put cmp x xs) := by
  induction xs with
  | nil => simp [Vector.put, Ascending]
  | cons y ys ih =>
    obtain ⟨hy, hys⟩ := List.pairwise_cons.mp h
    rw [Vector.put]
    by_cases hlt : cmp y x < 0
    · rw [if_pos hlt]
      refine List.pairwise_cons.mpr ⟨fun z hz => ?_, ih hys⟩
      obtain rfl | hz := mem_put hz
      · exact hlt
      · exact hy z hz
    · rw [if_neg hlt]
      by_cases heq : cmp y x = 0
      · rw [if_pos heq]
        refine List.pairwise_cons.mpr ⟨fun z hz => ?_, hys⟩
        exact hc.lt_of_le_of_lt (by rw [hc.eq_symm heq]) (hy z hz)
      · rw [if_neg heq]
        have hxy : cmp x y < 0 := (hc.symm x y).mpr (by omega)
        refine List.pairwise_cons.mpr ⟨fun z hz => ?_, h⟩
        obtain rfl | hz := List.mem_cons.mp hz
        · exact hxy
        · exact hc.lt_of_lt_of_le hxy (hy z hz).le

/-- Items that all come between two others are put there one after the other. -/
theorem foldl_put_between (hc : Compares cmp) (h : Ascending cmp (xs ++ ys ++ zs)) :
    ys.foldl (fun acc y => put cmp y acc) (xs ++ zs) = xs ++ ys ++ zs := by
  induction ys generalizing xs with
  | nil => simp
  | cons y ys ih =>
    have hput : put cmp y (xs ++ zs) = xs ++ [y] ++ zs := by
      rw [List.append_assoc, Ascending, List.pairwise_append] at h
      obtain ⟨-, hrest, hfront⟩ := h
      obtain ⟨hback, -⟩ := List.pairwise_cons.mp hrest
      have hplace : put cmp y (xs ++ zs) =
          (xs ++ zs).take xs.length ++ [y] ++ (xs ++ zs).drop xs.length := by
        refine put_of_order (by simp) (fun i hi => ?_) (fun i hk hi => ?_)
        · rw [List.getElem_append_left hi]
          exact hfront _ (List.getElem_mem hi) y (by simp)
        · rw [List.getElem_append_right hk]
          exact (hc.symm _ _).mp (hback _ (by simp))
      simpa using hplace
    rw [List.foldl_cons, hput, ih (by simpa using h)]
    simp

theorem Ascending.append (hc : Compares cmp) (hxs : Ascending cmp xs) (hys : Ascending cmp ys)
    (hx : 0 < xs.length) (hy : 0 < ys.length) (hlt : cmp xs[xs.length - 1] ys[0] < 0) :
    Ascending cmp (xs ++ ys) := by
  refine List.pairwise_append.mpr ⟨hxs, hys, fun x hmx y hmy => ?_⟩
  obtain ⟨i, hi, rfl⟩ := List.getElem_of_mem hmx
  obtain ⟨j, hj, rfl⟩ := List.getElem_of_mem hmy
  have hlast : cmp xs[i] ys[0] < 0 := by
    by_cases hil : i = xs.length - 1
    · subst hil
      exact hlt
    · exact hc.lt_of_lt_of_le (hxs.lt (show i < xs.length - 1 by omega) (by omega)) hlt.le
  by_cases hj0 : j = 0
  · subst hj0
    exact hlast
  · exact hc.lt_of_lt_of_le hlast (hys.lt (show 0 < j by omega) hj).le

theorem not_ascending_append (hx : 0 < xs.length) (hy : 0 < ys.length)
    (heq : cmp xs[xs.length - 1] ys[0] = 0) : ¬ Ascending cmp (xs ++ ys) := by
  intro h
  have hlt := h.lt (show xs.length - 1 < xs.length by omega) (by simp; omega)
  rw [List.getElem_append_left (by omega), List.getElem_append_right le_rfl] at hlt
  simp only [Nat.sub_self] at hlt
  omega

variable (cmp) in
/-- The last item of one list is equal to the first one of the other. -/
def Touching (xs ys : List α) : Prop :=
  ∃ (hx : 0 < xs.length) (hy : 0 < ys.length),
    cmp ys[ys.length - 1] xs[0] = 0 ∨ cmp ys[0] xs[xs.length - 1] = 0

end Lists

namespace World

variable {H P ν α : Type} [DecidableEq P] [DecidableEq ν] [Fintype ν]
variable {B : SharedBuffer H P} {T : ItemType α} {cmp : α → α → Int} {w w' : World H P ν α}
variable {u v : ν} {p : P} {abs : ν → List α} {xs ys : List α} {x : α}

/-! ## The binary search -/

/-- An index of an item that is equal, or the place for one. -/
def Found (cmp : α → α → Int) (xs : List α) (x : α) (r : Option Nat × Nat) : Prop :=
  (∃ i, r = (some i, i) ∧ ∃ hi : i < xs.length, cmp xs[i] x = 0) ∨
  (r.1 = none ∧ r.2 ≤ xs.length ∧ ∀ i, (hi : i < xs.length) →
    (i < r.2 → cmp xs[i] x < 0) ∧ (r.2 ≤ i → 0 < cmp xs[i] x))

section Searching

omit [DecidableEq ν] [Fintype ν]

theorem Keeps.readArray_eq (h : w.Keeps B T v xs) {i : Nat} (hi : i < xs.length) :
    w.readArray B T v i = .ok xs[i] := by
  obtain ⟨-, hx⟩ := h
  cases hs : (w.vec v).mStorage with
  | none =>
    have hnil : xs = [] := by simpa [hs] using hx
    simp [hnil] at hi
  | some p =>
    have hx : w.Holds B T p xs := by simpa [hs] using hx
    simp only [readArray, hs]
    exact hx.readItem_eq hi

theorem Keeps.readLast_eq (h : w.Keeps B T v xs) (hpos : 0 < xs.length) :
    w.readLast B T v = .ok xs[xs.length - 1] := by
  have hn : w.size v = xs.length := h.1
  rw [readLast, if_neg (by omega), hn, h.readArray_eq]

/-- In the loop, all items in front of `l` are smaller and all behind `h` are larger. -/
theorem search_spec (hc : Compares cmp) (hasc : Ascending cmp xs) (hk : w.Keeps B T v xs)
    (n l m : Nat) (hm : m ≤ xs.length) (hlm : l ≤ m) (hn : m - l ≤ n)
    (hbelow : ∀ i, (hi : i < l) → cmp (xs[i]) x < 0)
    (habove : ∀ i, m ≤ i → (hi : i < xs.length) → 0 < cmp xs[i] x) :
    ∃ r, w.search B T cmp v x n l (m - 1) = .ok r ∧ Found cmp xs x r := by
  have hdone : l = m → Found cmp xs x (none, l) := by
    rintro rfl
    exact .inr ⟨rfl, hm, fun i hi => ⟨fun hil => hbelow i hil, fun hli => habove i hli hi⟩⟩
  induction n generalizing l m with
  | zero => exact ⟨(none, l), rfl, hdone (by omega)⟩
  | succ n ih =>
    rw [search]
    by_cases hle : (l : Int) ≤ m - 1
    · obtain ⟨i, hi⟩ : ∃ i : Nat, (l : Int) + ((m : Int) - 1 - l) / 2 = i :=
        ⟨l + (m - 1 - l) / 2, by omega⟩
      have hix : i < xs.length := by omega
      rw [if_pos hle, hi]
      simp only [Int.toNat_natCast, hk.readArray_eq hix, bind, Except.bind]
      by_cases heq : cmp xs[i] x = 0
      · rw [if_pos heq]
        exact ⟨(some i, i), rfl, .inl ⟨i, rfl, hix, heq⟩⟩
      · rw [if_neg heq]
        by_cases hlt : cmp xs[i] x < 0
        · rw [if_pos hlt]
          have hnext : ∀ j, (hj : j < i + 1) → cmp (xs[j]) x < 0 := by
            intro j hj
            by_cases hji : j = i
            · subst hji
              exact hlt
            · exact hc.lt_of_lt_of_le (hasc.lt (by omega) hix) hlt.le
          exact_mod_cast ih (i + 1) m hm (by omega) (by omega) hnext habove (by
            rintro rfl
            exact .inr ⟨rfl, hm, fun j hj => ⟨fun hji => hnext j hji, fun hij => habove j hij hj⟩⟩)
        · rw [if_neg hlt]
          have hnext : ∀ j, i ≤ j → (hj : j < xs.length) → 0 < cmp xs[j] x := by
            intro j hij hj
            by_cases hji : j = i
            · subst hji
              omega
            · have hxi : cmp x xs[i] < 0 := (hc.symm _ _).mpr (by omega)
              have := hc.lt_of_lt_of_le hxi (hasc.lt (show i < j by omega) hj).le
              exact (hc.symm _ _).mp this
          exact ih l i (by omega) (by omega) (by omega) hbelow hnext (by
            rintro rfl
            exact .inr ⟨rfl, hix.le, fun j hj =>
              ⟨fun hji => hbelow j hji, fun hij => hnext j hij hj⟩⟩)
    · rw [if_neg hle]
      exact ⟨(none, l), rfl, hdone (by omega)⟩

theorem indexOrderOf_spec (hc : Compares cmp) (hasc : Ascending cmp xs)
    (hk : w.Keeps B T v xs) (x : α) :
    ∃ r, w.indexOrderOf B T cmp v x = .ok r ∧ Found cmp xs x r := by
  have hn : w.size v = xs.length := hk.1
  rw [indexOrderOf, hn]
  exact search_spec hc hasc hk (xs.length + 1) 0 xs.length le_rfl (Nat.zero_le _) (by omega)
    (fun i hi => by omega) (fun i hi hl => by omega)

end Searching

/-! ## Adding -/

theorem Found.none_eq {k : Nat} (h : Found cmp xs x (none, k)) :
    k ≤ xs.length ∧ put cmp x xs = xs.take k ++ [x] ++ xs.drop k := by
  obtain ⟨i, hi, -⟩ | ⟨-, hk, hall⟩ := h
  · cases hi
  · exact ⟨hk, put_of_order hk (fun i hi => (hall i (by omega)).1 hi)
      fun i hki hi => (hall i hi).2 hki⟩

theorem Found.some_eq (hasc : Ascending cmp xs) (hc : Compares cmp) {i k : Nat}
    (h : Found cmp xs x (some i, k)) : ∃ hi : i < xs.length, cmp xs[i] x = 0 ∧
      put cmp x xs = xs.set i x := by
  obtain ⟨j, hj, hi, heq⟩ | ⟨hnone, -⟩ := h
  · cases hj
    refine ⟨hi, heq, put_of_equal hi heq fun m hm => ?_⟩
    exact hc.lt_of_lt_of_le (hasc.lt hm hi) heq.le
  · cases hnone

omit [DecidableEq ν] in
theorem ItemOf.readSource_eq {src : Source P α} (h : w.Refines B T abs)
    (hitem : w.ItemOf v abs src x) : w.readSource B T src = .ok x := by
  obtain rfl | ⟨u, p, j, -, hs, rfl, hx⟩ := hitem
  · rfl
  · have hk := (h.kept u).2
    have hholds : w.Holds B T p (abs u) := by simpa [hs] using hk
    obtain ⟨hj, rfl⟩ := List.getElem?_eq_some_iff.mp hx
    exact hholds.readItem_eq hj

/-- The item is added in its place or replaces the one that is equal, unless it is refused. -/
theorem sortedAdd_spec (hc : Compares cmp) {src : Source P α} (h : w.Refines B T abs)
    (hasc : Ascending cmp (abs v)) (hitem : w.ItemOf v abs src x) :
    ∃ refused, w.addRefused B T cmp v x = .ok refused ∧
      Safely (w.sortedAdd B T cmp v src) fun (w', r) =>
        (∀ u, u ≠ v → w'.vec u = w.vec u) ∧
        ((refused = false ∧ ∃ i, r = .ok i ∧ (put cmp x (abs v))[i]? = some x ∧
            w'.Refines B T (Function.update abs v (put cmp x (abs v)))) ∨
          (refused = true ∧ r = .error .noMemory ∧ w'.Refines B T abs)) := by
  obtain ⟨⟨index, order⟩, heq, hfound⟩ := indexOrderOf_spec hc hasc (h.kept v) x
  simp only [sortedAdd, addRefused, hitem.readSource_eq h, heq, bind, Except.bind]
  refine ⟨_, rfl, ?_⟩
  cases index with
  | none =>
    obtain ⟨hle, hput⟩ := hfound.none_eq
    refine (insertAt_item h hitem).mono ?_
    rintro ⟨w₁, r⟩ ⟨hframe, abs', ⟨rfl, hrefused, -, ys, rfl, rfl⟩ |
      ⟨rfl, ⟨-, hlt⟩ | ⟨rfl, -, hrefused⟩⟩, h'⟩
    · refine ⟨hframe, .inl ⟨hrefused, _, rfl, ?_, by rw [hput]; exact h'⟩⟩
      rw [hput]
      simp [hle]
    · omega
    · exact ⟨hframe, .inr ⟨by simpa using hrefused, rfl, h'⟩⟩
  | some i =>
    obtain ⟨hi, -, hput⟩ := hfound.some_eq hasc hc
    refine (replaceAt_item h hitem hi).mono ?_
    rintro ⟨w₁, r⟩ ⟨hframe, rfl, h'⟩
    exact ⟨hframe, .inl ⟨rfl, _, rfl, by simp [hput, hi], by rw [hput]; exact h'⟩⟩

/-! ## Merging -/

/-- The items of a merge, all of them unless one was refused. -/
def Merged (cmp : α → α → Int) (xs ys : List α) (refused : Bool) (r : Result) (zs : List α) :
    Prop :=
  (refused = false ∧ r = .ok 0 ∧ zs = ys.foldl (fun acc y => put cmp y acc) xs) ∨
  (refused = true ∧ r = .error .noMemory ∧
    ∃ n < ys.length, zs = (ys.take n).foldl (fun acc y => put cmp y acc) xs)

theorem Merged.cons {y : α} {refused : Bool} {r : Result} {zs : List α}
    (h : Merged cmp (put cmp y xs) ys refused r zs) : Merged cmp xs (y :: ys) refused r zs := by
  obtain ⟨rfl, rfl, hzs⟩ | ⟨rfl, rfl, n, hn, hzs⟩ := h
  · exact .inl ⟨rfl, rfl, hzs⟩
  · exact .inr ⟨rfl, rfl, n + 1, by simpa using hn, hzs⟩

theorem Ascending.foldl_put (hc : Compares cmp) (hasc : Ascending cmp xs) (ys : List α) :
    Ascending cmp (ys.foldl (fun acc y => put cmp y acc) xs) := by
  induction ys generalizing xs with
  | nil => exact hasc
  | cons y ys ih => exact ih (hasc.put hc)

theorem Merged.ascending {ys zs : List α} {refused : Bool} {r : Result} (hc : Compares cmp)
    (h : Merged cmp xs ys refused r zs) (hasc : Ascending cmp xs) : Ascending cmp zs := by
  obtain ⟨-, -, rfl⟩ | ⟨-, -, n, -, rfl⟩ := h
  · exact Ascending.foldl_put hc hasc ys
  · exact Ascending.foldl_put hc hasc (ys.take n)

theorem mergeFrom_spec (hc : Compares cmp) (huv : u ≠ v) (n i : Nat)
    (hi : i + n = (abs u).length) (h : w.Refines B T (Function.update abs v xs))
    (hs : (w.vec u).mStorage = some p) (hasc : Ascending cmp xs) :
    Safely (mergeFrom B T cmp v p n i w) fun (w', r) => ∃ refused zs,
      mergeFromRefused B T cmp v p n i w = .ok refused ∧
      Merged cmp xs ((abs u).drop i) refused r zs ∧
      w'.Refines B T (Function.update abs v zs) := by
  induction n generalizing i w xs with
  | zero =>
    have hnil : (abs u).drop i = [] := List.drop_of_length_le (by omega)
    exact ⟨false, xs, rfl, .inl ⟨rfl, rfl, by rw [hnil]; rfl⟩, h⟩
  | succ n ih =>
    have hlt : i < (abs u).length := by omega
    have hitem : w.ItemOf v (Function.update abs v xs) (.storage p i) (abs u)[i] := by
      refine .inr ⟨u, p, i, huv, hs, rfl, ?_⟩
      rw [Function.update_of_ne huv]
      exact List.getElem?_eq_getElem hlt
    have hread : w.readItem B T p i = .ok (abs u)[i] := hitem.readSource_eq h
    obtain ⟨refused, hrefused, hadd⟩ := sortedAdd_spec hc h (by rwa [Function.update_self]) hitem
    rw [List.drop_eq_getElem_cons hlt]
    simp only [mergeFrom, mergeFromRefused, hread, hrefused, bind, Except.bind]
    cases ha : w.sortedAdd B T cmp v (.storage p i) with
    | error f =>
      rw [ha] at hadd
      exact hadd
    | ok x =>
      obtain ⟨w₁, r⟩ := x
      rw [ha] at hadd
      obtain ⟨hframe, ⟨rfl, k, rfl, -, h₁⟩ | ⟨rfl, rfl, h₁⟩⟩ := hadd
      · rw [Function.update_self, Function.update_idem] at h₁
        refine (ih (i + 1) (by omega) h₁ (by rw [hframe u huv, hs]) (hasc.put hc)).mono ?_
        rintro ⟨w₂, r⟩ ⟨refused, zs, hrest, hmerged, h₂⟩
        exact ⟨refused, zs, hrest, hmerged.cons, h₂⟩
      · exact ⟨true, xs, rfl, .inr ⟨rfl, rfl, 0, Nat.succ_pos _, rfl⟩, h₁⟩

/-- `merge` adds the items of the other vector one by one. -/
theorem merge_spec (hc : Compares cmp) (huv : u ≠ v) (h : w.Refines B T abs)
    (hasc : Ascending cmp (abs v)) :
    Safely (w.merge B T cmp v u) fun (w', r) => ∃ refused zs,
      w.mergeRefused B T cmp v u = .ok refused ∧ Merged cmp (abs v) (abs u) refused r zs ∧
      w'.Refines B T (Function.update abs v zs) := by
  have hn : w.size u = (abs u).length := (h.kept u).1
  have h' : w.Refines B T (Function.update abs v (abs v)) := by rwa [Function.update_eq_self]
  rw [merge, mergeRefused]
  by_cases h0 : w.size u = 0
  · rw [if_pos h0, h0]
    have hnil : abs u = [] := List.eq_nil_of_length_eq_zero (by omega)
    refine ⟨false, abs v, ?_, .inl ⟨rfl, rfl, by rw [hnil]; rfl⟩, h'⟩
    cases (w.vec u).mStorage with
    | none => rfl
    | some p => rfl
  · rw [if_neg h0]
    cases hs : (w.vec u).mStorage with
    | none =>
      have hnil : abs u = [] := by simpa [hs] using (h.kept u).2
      simp [hn, hnil] at h0
    | some p =>
      exact mergeFrom_spec hc huv (w.size u) 0 (by omega) h' hs hasc

/-- A short cut inserts all items of the other vector in front of the first one or behind the last
one. -/
theorem insertVectorAt_end (h : w.Refines B T abs) (huv : u ≠ v) (hpos : 0 < (abs u).length)
    {index : Nat} (hindex : index ≤ (abs v).length) :
    Safely (w.insertVectorAt B T v u index) fun (w', r) =>
      (w.growRefused B T v index (abs u).length = false ∧ r = .ok index ∧ w'.Refines B T
        (Function.update abs v ((abs v).take index ++ abs u ++ (abs v).drop index))) ∨
      (w.growRefused B T v index (abs u).length = true ∧ r = .error .noMemory ∧
        w'.Refines B T abs) := by
  have hn : w.size u = (abs u).length := (h.kept u).1
  refine (insertVectorAt_spec index h fun hvu => absurd hvu huv).mono ?_
  rw [hn]
  rintro ⟨w₁, r⟩ ⟨abs', ⟨rfl, hrefused, -, ys, rfl, rfl⟩ |
    ⟨rfl, ⟨-, hlt⟩ | ⟨rfl, -, hrefused⟩⟩, h₁⟩
  · exact .inl ⟨hrefused, rfl, h₁⟩
  · omega
  · obtain hrefused | hnil := hrefused
    · exact .inr ⟨hrefused, rfl, h₁⟩
    · simp [← hnil] at hpos

/-- The short cuts for vectors that do not overlap give what `merge` gives, unless an item is at the
end of both: then the vector has it twice. -/
theorem mergeSorted_spec (hc : Compares cmp) (huv : u ≠ v) (h : w.Refines B T abs)
    (hv : Ascending cmp (abs v)) (hu : Ascending cmp (abs u)) (hne : abs v ≠ []) :
    Safely (w.mergeSorted B T cmp v u) fun (w', r) => ∃ refused zs,
      w.mergeSortedRefused B T cmp v u = .ok refused ∧
      w'.Refines B T (Function.update abs v zs) ∧
      ((refused = true ∧ r = .error .noMemory ∧ ∃ n < (abs u).length,
        zs = ((abs u).take n).foldl (fun acc y => put cmp y acc) (abs v)) ∨
      (refused = false ∧ (r = .ok 0 ∨ r = .ok (abs v).length) ∧
        (¬ Touching cmp (abs v) (abs u) →
          zs = (abs u).foldl (fun acc y => put cmp y acc) (abs v)) ∧
        (Touching cmp (abs v) (abs u) → zs.length = (abs v).length + (abs u).length ∧
          ¬ Ascending cmp zs))) := by
  have hnu : w.size u = (abs u).length := (h.kept u).1
  have hnv : w.size v = (abs v).length := (h.kept v).1
  have hposv := List.length_pos_iff.mpr hne
  have h' : w.Refines B T (Function.update abs v (abs v)) := by rwa [Function.update_eq_self]
  rw [mergeSorted, mergeSortedRefused]
  by_cases h0 : w.size u = 0
  · simp only [if_pos h0]
    have hnil : abs u = [] := List.eq_nil_of_length_eq_zero (by omega)
    refine ⟨false, abs v, rfl, h', .inr ⟨rfl, .inl rfl, fun _ => by rw [hnil]; rfl, ?_⟩⟩
    rintro ⟨-, hy, -⟩
    omega
  · have hposu : 0 < (abs u).length := by omega
    rw [if_neg h0, if_neg h0]
    simp only [(h.kept u).readLast_eq hposu, (h.kept v).readArray_eq hposv, bind,
      Except.bind, hnu, hnv]
    by_cases hfront : cmp (abs u)[(abs u).length - 1] (abs v)[0] ≤ 0
    · simp only [if_pos hfront]
      refine (insertVectorAt_end h huv hposu (Nat.zero_le _)).mono ?_
      rintro ⟨w₁, r⟩ (⟨hrefused, rfl, h₁⟩ | ⟨hrefused, rfl, h₁⟩)
      · refine ⟨_, abs u ++ abs v, rfl, by simpa using h₁,
          .inr ⟨hrefused, .inl rfl, fun hnot => ?_, fun htouch => ?_⟩⟩
        · have hlt : cmp (abs u)[(abs u).length - 1] (abs v)[0] < 0 := by
            by_contra hge
            exact hnot ⟨hposv, hposu, .inl (by omega)⟩
          have hboth : Ascending cmp ([] ++ abs u ++ abs v) := hu.append hc hv hposu hposv hlt
          simpa using (foldl_put_between hc hboth).symm
        · refine ⟨by simp; omega, fun hboth => ?_⟩
          obtain ⟨_, _, heq | heq⟩ := htouch
          · exact not_ascending_append hposu hposv heq hboth
          · have hlt := hboth.lt (i := 0) (j := (abs u).length + ((abs v).length - 1))
              (by omega) (by simp; omega)
            rw [List.getElem_append_left hposu, List.getElem_append_right (by omega)] at hlt
            simp only [Nat.add_sub_cancel_left] at hlt
            omega
      · exact ⟨_, abs v, rfl, by simpa using h₁, .inl ⟨hrefused, rfl, 0, hposu, rfl⟩⟩
    · simp only [if_neg hfront, (h.kept u).readArray_eq hposu, (h.kept v).readLast_eq hposv]
      by_cases hback : (0 : Int) ≤ cmp (abs u)[0] (abs v)[(abs v).length - 1]
      · simp only [if_pos hback, appendVector, hnv]
        refine (insertVectorAt_end h huv hposu le_rfl).mono ?_
        rintro ⟨w₁, r⟩ (⟨hrefused, rfl, h₁⟩ | ⟨hrefused, rfl, h₁⟩)
        · refine ⟨_, abs v ++ abs u, rfl, by simpa using h₁,
            .inr ⟨hrefused, .inr rfl, fun hnot => ?_, fun htouch => ⟨by simp, ?_⟩⟩⟩
          · have hlt : cmp (abs v)[(abs v).length - 1] (abs u)[0] < 0 := by
              refine (hc.symm _ _).mpr ?_
              by_contra hge
              exact hnot ⟨hposv, hposu, .inr (by omega)⟩
            have hboth : Ascending cmp (abs v ++ abs u ++ []) := by
              simpa using hv.append hc hu hposv hposu hlt
            simpa using (foldl_put_between hc hboth).symm
          · obtain ⟨_, _, heq | heq⟩ := htouch
            · omega
            · exact not_ascending_append hposv hposu (hc.eq_symm heq)
        · exact ⟨_, abs v, rfl, by simpa using h₁, .inl ⟨hrefused, rfl, 0, hposu, rfl⟩⟩
      · simp only [if_neg hback]
        refine (merge_spec hc huv h hv).mono ?_
        rintro ⟨w₁, r⟩ ⟨refused, zs, hrefused, ⟨rfl, rfl, rfl⟩ | ⟨rfl, rfl, hn⟩, h₁⟩
        · refine ⟨false, _, hrefused, h₁, .inr ⟨rfl, .inl rfl, fun _ => rfl, ?_⟩⟩
          rintro ⟨_, _, heq | heq⟩
          · omega
          · omega
        · exact ⟨true, zs, hrefused, h₁, .inl ⟨rfl, rfl, hn⟩⟩

theorem sortedRemove_spec (hc : Compares cmp) (h : w.Refines B T abs)
    (hasc : Ascending cmp (abs v)) (x : α) :
    Safely (w.sortedRemove B T cmp v x) fun (w', r) =>
      ∃ refused, w.removeRefused B T cmp v x = .ok refused ∧
        ((∃ i, ∃ hi : i < (abs v).length, r = .ok i ∧ cmp (abs v)[i] x = 0 ∧
          ∃ abs', Call.Removed abs v i 1 refused abs' ∧ w'.Refines B T abs') ∨
        (r = .error .nameNotFound ∧ (∀ y ∈ abs v, cmp y x ≠ 0) ∧ w' = w)) := by
  obtain ⟨⟨index, order⟩, heq, hfound⟩ := indexOrderOf_spec hc hasc (h.kept v) x
  simp only [sortedRemove, removeRefused, indexOf, heq, bind, Except.bind]
  cases index with
  | none =>
    refine ⟨false, rfl, .inr ⟨rfl, fun y hy => ?_, rfl⟩⟩
    obtain ⟨i, hi, -⟩ | ⟨-, -, hall⟩ := hfound
    · cases hi
    · obtain ⟨i, hi, rfl⟩ := List.getElem_of_mem hy
      by_cases hio : i < order
      · exact ((hall i hi).1 hio).ne
      · exact ((hall i hi).2 (by omega)).ne'
  | some i =>
    obtain ⟨hi, hequal, -⟩ := hfound.some_eq hasc hc
    refine Safely.bind _ (removeItemsAt_of_le h (show i + 1 ≤ (abs v).length by omega)) ?_
    rintro ⟨w₁, r⟩ ⟨rfl, abs', hremoved, h₁⟩
    exact ⟨_, rfl, .inl ⟨i, hi, rfl, hequal, abs', hremoved, h₁⟩⟩

end World

end Vector
end Huashan
