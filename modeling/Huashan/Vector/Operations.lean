import Huashan.Vector.Sort

/-!
# Huashan.Vector.Operations

The public operations as calls, and what each does to the lists of items when the storage that it
asks for is refused or not: `Call.Effect`. `call_spec`: an allowed call on vectors that are in
order has its effect on the lists, or ends the program, and the vectors are in order again.
-/

namespace Huashan
namespace Vector

abbrev Result := Except Status Nat

/-- Arguments that are items or arrays are somewhere else in memory. -/
inductive Call (ν α : Type) where
  | create (v : ν)
  | copyOf (v u : ν)
  | assign (v u : ν)
  | insertArrayAt (v : ν) (xs : List α) (index : Fin sizeT)
  | insertVectorAt (v u : ν) (index : Fin sizeT)
  | appendVector (v u : ν)
  | appendArray (v : ν) (xs : List α)
  | insertAt (v : ν) (item : Option α) (index numItems : Fin sizeT)
  | add (v : ν) (item : Option α)
  | push (v : ν) (item : Option α)
  | replaceAt (v : ν) (item : Option α) (index : Fin sizeT)
  | removeItemsAt (v : ν) (index count : Fin sizeT)
  | pop (v : ν)
  | clear (v : ν)
  | setCapacity (v : ν) (newCapacity : Fin sizeT)
  | resize (v : ν) (size : Fin sizeT)
  | sort (v : ν) (cmp : α → α → Int) (malloc : Bool)
  | finishVector (v : ν)

namespace Call

variable {ν α : Type} [DecidableEq ν] (T : ItemType α) (abs : ν → List α)

/-- What `n` new items without a value are: a trivial constructor leaves what is there. -/
def Constructed (n : Nat) (ys : List α) : Prop :=
  ys.length = n ∧ (T.trivialCtor = false → ys = List.replicate n T.constructed)

def NewItems (item : Option α) (n : Nat) (ys : List α) : Prop :=
  match item with
  | some x => ys = List.replicate n x
  | none => Constructed T n ys

/-- Items that satisfy `new` are in front of `index`. The lists are as before for an index that is
too large, and without memory, which is also the answer to some insertions of no items. -/
def Inserted (v : ν) (index : Nat) (new : List α → Prop) (refused : Bool) (r : Result)
    (abs' : ν → List α) : Prop :=
  (r = .ok index ∧ refused = false ∧ index ≤ (abs v).length ∧
    ∃ ys, new ys ∧ abs' = Function.update abs v ((abs v).take index ++ ys ++ (abs v).drop index)) ∨
  (abs' = abs ∧ (r = .error .badIndex ∧ (abs v).length < index ∨
    r = .error .noMemory ∧ index ≤ (abs v).length ∧ (refused ∨ new [])))

/-- The `count` items from `index` on are gone, unless there was no memory for storage without
them. -/
def Removed (v : ν) (index count : Nat) (refused : Bool) (abs' : ν → List α) : Prop :=
  abs' = if refused then abs
    else Function.update abs v ((abs v).take index ++ (abs v).drop (index + count))

/-- The result of a call and the lists after it, when the storage that it asks for is refused or
not. -/
def Effect (c : Call ν α) (refused : Bool) (r : Result) (abs' : ν → List α) : Prop :=
  match c with
  | .create v => abs' = Function.update abs v []
  | .copyOf v u => abs' = Function.update abs v (abs u)
  | .assign v u => abs' = Function.update abs v (abs u)
  | .insertArrayAt v xs index => Inserted abs v index (· = xs) refused r abs'
  | .insertVectorAt v u index => Inserted abs v index (· = abs u) refused r abs'
  | .appendVector v u => Inserted abs v (abs v).length (· = abs u) refused r abs'
  | .appendArray v xs => Inserted abs v (abs v).length (· = xs) refused r abs'
  | .insertAt v item index n => Inserted abs v index (NewItems T item n) refused r abs'
  | .add v item => Inserted abs v (abs v).length (NewItems T item 1) refused r abs'
  | .push v item => ∃ r', Inserted abs v (abs v).length (NewItems T item 1) refused r' abs'
  | .replaceAt v item index =>
    (r = .ok index.val ∧ index < (abs v).length ∧
      ∃ x, NewItems T item 1 [x] ∧ abs' = Function.update abs v ((abs v).set index x)) ∨
    (r = .error .badIndex ∧ (abs v).length ≤ index ∧ abs' = abs)
  | .removeItemsAt v index count =>
    (r = .ok index.val ∧ index + count ≤ (abs v).length ∧
      Removed abs v index count refused abs') ∨
    (r = .error .badValue ∧ (abs v).length < index + count ∧ abs' = abs)
  | .pop v => Removed abs v ((abs v).length - 1) 1 refused abs'
  | .clear v => Removed abs v 0 (abs v).length refused abs'
  | .setCapacity v n => abs' = abs ∧
    if n ≤ (abs v).length then ∃ capacity, r = .ok capacity ∧ (abs v).length ≤ capacity
    else r = if refused then .error .noMemory else .ok n.val
  | .resize v size =>
    (r = .ok size.val ∧ refused = false ∧ ∃ ys, Constructed T (size - (abs v).length) ys ∧
      abs' = Function.update abs v ((abs v).take size ++ ys)) ∨
    (abs' = abs ∧ refused = true ∧
      r = if (abs v).length < size then .error .noMemory else .ok size.val)
  | .sort v cmp malloc =>
    if malloc ∨ (abs v).IsChain fun x y => cmp x y ≤ 0 then
      r = .ok 0 ∧ abs' = Function.update abs v (sorted cmp (abs v))
    else r = .error .noMemory ∧ abs' = abs
  | .finishVector v => abs' = Function.update abs v []

end Call

namespace World

variable {H P ν α : Type} [DecidableEq P] [DecidableEq ν]

section Calls

variable (B : SharedBuffer H P) (T : ItemType α) (w : World H P ν α)

def call : Call ν α → Except Fault (World H P ν α × Result)
  | .create v => .ok (w.create v, .ok 0)
  | .copyOf v u => .ok (w.copyOf B v u, .ok 0)
  | .assign v u => do return (← w.assign B T v u, .ok 0)
  | .insertArrayAt v xs index => w.insertArrayAt B T v (.values xs) index xs.length
  | .insertVectorAt v u index => w.insertVectorAt B T v u index
  | .appendVector v u => w.appendVector B T v u
  | .appendArray v xs => w.appendArray B T v (.values xs) xs.length
  | .insertAt v item index n => w.insertAt B T v (item.map fun x => .values [x]) index n
  | .add v item => w.add B T v (item.map fun x => .values [x])
  | .push v item => do return (← w.push B T v (item.map fun x => .values [x]), .ok 0)
  | .replaceAt v item index => w.replaceAt B T v (item.map fun x => .values [x]) index
  | .removeItemsAt v index count => w.removeItemsAt B T v index count
  | .pop v => do return (← w.pop B T v, .ok 0)
  | .clear v => do return (← w.clear B T v, .ok 0)
  | .setCapacity v n => w.setCapacity B T v n
  | .resize v n => w.resize B T v n
  | .sort v cmp malloc => w.sort B T v cmp malloc
  | .finishVector v => do return (← w.finishVector B T v, .ok 0)

def resizeRefused (v : ν) (size : Nat) : Bool :=
  if w.size v < size then w.growRefused B T v (w.size v) (size - w.size v)
  else size < w.size v && w.shrinkRefused B T v size (w.size v - size)

/-- There is no memory for the storage that a call asks for. -/
def refused : Call ν α → Bool
  | .insertArrayAt v xs index => w.growRefused B T v index xs.length
  | .insertVectorAt v u index => w.growRefused B T v index (w.size u)
  | .appendVector v u => w.growRefused B T v (w.size v) (w.size u)
  | .appendArray v xs => w.growRefused B T v (w.size v) xs.length
  | .insertAt v _ index n => w.growRefused B T v index n
  | .add v _ | .push v _ => w.growRefused B T v (w.size v) 1
  | .removeItemsAt v index count => w.shrinkRefused B T v index count
  | .pop v => w.shrinkRefused B T v (w.size v - 1) 1
  | .clear v => w.shrinkRefused B T v 0 (w.size v)
  | .setCapacity _ n => (B.alloc w.heap (n * T.itemSize)).2.isNone
  | .resize v n => w.resizeRefused B T v n
  | _ => false

/-- No other vector has the items of `v`. -/
def Alone (v : ν) : Prop := ∃ p ∈ (w.vec v).mStorage, B.refs w.heap p = 1

/-- A new vector is not one that is still in use; a vector that has its items alone is not inserted
into itself; and the end of a range is a `size_t`. -/
def Allowed : Call ν α → Prop
  | .create v => w.vec v = ⟨none, 0⟩
  | .copyOf v u => w.vec v = ⟨none, 0⟩ ∧ u ≠ v
  | .insertVectorAt v u _ => u = v → w.size v = 0 ∨ ¬ w.Alone B v
  | .appendVector v u => u = v → w.size v = 0 ∨ ¬ w.Alone B v
  | .removeItemsAt _ index count => index.val + count.val < sizeT
  | _ => True

instance (v : ν) : Decidable (w.Alone B v) :=
  inferInstanceAs (Decidable (∃ p ∈ (w.vec v).mStorage, _ = _))

instance (c : Call ν α) : Decidable (w.Allowed B c) :=
  match c with
  | .create _ => inferInstanceAs (Decidable (_ = _))
  | .copyOf _ _ => inferInstanceAs (Decidable (_ ∧ _))
  | .insertVectorAt .. => inferInstanceAs (Decidable (_ → _ ∨ _))
  | .appendVector .. => inferInstanceAs (Decidable (_ → _ ∨ _))
  | .removeItemsAt .. => inferInstanceAs (Decidable (_ < _))
  | .assign .. | .insertArrayAt .. | .appendArray .. | .insertAt .. | .add .. | .push ..
  | .replaceAt .. | .pop _ | .clear _ | .setCapacity .. | .resize .. | .sort ..
  | .finishVector _ => .isTrue trivial

end Calls

variable [Fintype ν]
variable {B : SharedBuffer H P} {T : ItemType α} {w w' : World H P ν α}
variable {u v : ν} {p q : P} {hand : List P} {abs : ν → List α} {xs : List α}

open Call

theorem Refines.keep (h : w.Refines B T (Function.update abs v (abs v))) : w.Refines B T abs := by
  rwa [Function.update_eq_self] at h

/-! ## Insertions -/

/-- An insertion whose last step builds new items where there is room for them. -/
theorem insert_spec {index n : Nat} {new : List α → Prop}
    (build : World H P ν α → P → Nat → Except Fault (World H P ν α)) (h : w.Refines B T abs)
    (hnil : n = 0 → new [])
    (hbuild : ∀ w₁ q, index ≤ (abs v).length → w₁.Gap B T v q abs (abs v) index n →
      (∀ u, u ≠ v → w₁.vec u = w.vec u) → w.SharedSame B w₁ → B.refs w.heap q ≤ 1 →
      ∃ ys, new ys ∧ ys.length = n ∧
        build w₁ q index = .ok (w₁.setMem q ((w₁.mem q).build index ys))) :
    Safely (if w.size v < index then (pure (w, .error .badIndex) : Except Fault _) else do
        let (w, place) ← w.grow B T v index n
        match place with
        | none => return (w, .error .noMemory)
        | some (p, k) =>
          let w ← build w p k
          return (w, .ok index)) fun (w', r) =>
      (∀ u, u ≠ v → w'.vec u = w.vec u) ∧
        ∃ abs', Inserted abs v index new (w.growRefused B T v index n) r abs' ∧
          w'.Refines B T abs' := by
  obtain ⟨hr, hk⟩ := refines_iff_rest.mp h
  have hn : w.size v = (abs v).length := hk.1
  by_cases hlt : w.size v < index
  · rw [if_pos hlt]
    exact ⟨fun _ _ => rfl, abs, .inr ⟨rfl, .inl ⟨rfl, by omega⟩⟩, h⟩
  · rw [if_neg hlt]
    refine Safely.bind _ (grow_spec n hr hk (by omega)) ?_
    rintro ⟨w₁, place⟩ ⟨hframe, hsame, hpost⟩
    cases place with
    | none =>
      obtain ⟨hwhy, hpost⟩ := hpost
      exact ⟨hframe, abs, .inr ⟨rfl, .inr ⟨rfl, by omega, hwhy.symm.imp_right hnil⟩⟩,
        Refines.keep hpost⟩
    | some pk =>
      obtain ⟨q, k⟩ := pk
      obtain ⟨hrefused, rfl, hgap, h1⟩ := hpost
      obtain ⟨ys, hnew, rfl, heq⟩ := hbuild w₁ q (by omega) hgap hframe hsame h1.le_one
      simp only [heq, bind, Except.bind]
      exact ⟨hframe, _, .inl ⟨rfl, hrefused, by omega, ys, hnew, rfl⟩, hgap.fill (by omega)⟩

theorem constructed_nil {n : Nat} (hn : n = 0) : Constructed T n [] := by
  subst hn
  exact ⟨rfl, fun _ => rfl⟩

/-- Items that are not in the storage of the vector are copied into the gap. -/
theorem Gap.doCopy_eq {src : Source P α} {pos amount : Nat}
    (h : w.Gap B T v q abs xs pos amount) (hpos : pos ≤ xs.length)
    (hread : w.Readable B T src amount) (hapart : Apart q pos amount src amount) :
    w.doCopy B T q pos src amount =
      .ok (w.setMem q ((w.mem q).build pos (w.items src amount))) := by
  have hroom := h.room
  exact World.doCopy_eq (by omega) hread hapart h.vacant

theorem Gap.doConstruct_eq {pos amount : Nat} (h : w.Gap B T v q abs xs pos amount)
    (hpos : pos ≤ xs.length) :
    ∃ ys, Constructed T amount ys ∧
      w.doConstruct B T q pos amount = .ok (w.setMem q ((w.mem q).build pos ys)) := by
  have hroom := h.room
  refine ⟨if T.trivialCtor then (w.mem q).read pos amount
    else List.replicate amount T.constructed, ⟨?_, fun ht => by simp [ht]⟩, ?_⟩
  · split <;> simp
  · rw [doConstruct, if_pos ⟨by omega, h.vacant⟩]

theorem insertArrayAt_spec {index : Nat} (h : w.Refines B T abs) :
    Safely (w.insertArrayAt B T v (.values xs) index xs.length) fun (w', r) =>
      ∃ abs', Inserted abs v index (· = xs) (w.growRefused B T v index xs.length) r abs' ∧
        w'.Refines B T abs' := by
  refine Safely.mono (insert_spec (fun w p k => w.doCopy B T p k (.values xs) xs.length) h
    (fun h0 => (List.eq_nil_of_length_eq_zero h0).symm) ?_) fun _ hx => hx.2
  intro w₁ q hindex hgap _ _ _
  refine ⟨xs, rfl, rfl, ?_⟩
  have hread : w₁.Readable B T (.values xs) xs.length := le_rfl
  have hitems : w₁.items (.values xs) xs.length = xs := by simp [items]
  rw [hgap.doCopy_eq hindex hread trivial, hitems]

/-- The items of a vector can be read while another one grows, and while it grows itself if others
have its buffer too. -/
theorem source_spec {index : Nat} {w₁ : World H P ν α} (h : w.Refines B T abs)
    (hallowed : u = v → w.size v = 0 ∨ ¬ w.Alone B v)
    (hgap : w₁.Gap B T v q abs (abs v) index (w.size u)) (hframe : ∀ u, u ≠ v → w₁.vec u = w.vec u)
    (hsame : w.SharedSame B w₁) (h1 : B.refs w.heap q ≤ 1) :
    w₁.Readable B T (w.arrayImpl u) (w.size u) ∧
      Apart q index (w.size u) (w.arrayImpl u) (w.size u) ∧
      w₁.items (w.arrayImpl u) (w.size u) = abs u := by
  have hk := h.kept u
  have hn : w.size u = (abs u).length := hk.1
  cases hs : (w.vec u).mStorage with
  | none =>
    have hnil : abs u = [] := by simpa [hs] using hk.2
    have h0 : w.size u = 0 := by simp [hn, hnil]
    simp [arrayImpl, hs, Readable, Apart, items, h0, hnil]
  | some p =>
    simp only [arrayImpl, hs]
    -- the buffer is not the one with the gap, or there is nothing to read
    have hcase : (p ≠ q ∧ w₁.Holds B T p (abs u)) ∨ abs u = [] := by
      by_cases huv : u = v
      · subst huv
        obtain h0 | halone := hallowed rfl
        · exact .inr (List.eq_nil_of_length_eq_zero (by omega))
        · have hx : w.Holds B T p (abs u) := by simpa [hs] using hk.2
          have hne : B.refs w.heap p ≠ 1 := fun h1 => halone ⟨p, hs, h1⟩
          have hpos : 0 < (w.holders p).card :=
            Finset.card_pos.mpr ⟨u, by simp [holders, hs]⟩
          have hmany : 1 < B.refs w.heap p := by
            have := h.counts p
            omega
          refine .inl ⟨?_, hx.congr (hsame p hmany).1 (hsame p hmany).2⟩
          rintro rfl
          omega
      · have hk₁ := hgap.owns.rest.kept u huv
        rw [Keeps, hframe u huv, hs] at hk₁
        have hnone := hgap.owns.rest.others_eq_empty List.mem_cons_self hgap.owns.sole
        refine .inl ⟨ne_of_others_eq_empty hnone huv ?_, hk₁.2⟩
        rw [hframe u huv, hs]
    obtain ⟨hpq, hx⟩ | hnil := hcase
    · refine ⟨hx.readable (by omega), fun h => absurd h hpq, ?_⟩
      rw [hx.items_eq (by omega), List.drop_zero, hn, List.take_length]
    · have h0 : w.size u = 0 := by simp [hn, hnil]
      rw [h0, hnil]
      exact ⟨⟨by omega, .inr fun i hi => by omega⟩, fun _ => by omega, rfl⟩

theorem insertVectorAt_spec (index : Nat) (h : w.Refines B T abs)
    (hallowed : u = v → w.size v = 0 ∨ ¬ w.Alone B v) :
    Safely (w.insertVectorAt B T v u index) fun (w', r) =>
      ∃ abs', Inserted abs v index (· = abs u) (w.growRefused B T v index (w.size u)) r abs' ∧
        w'.Refines B T abs' := by
  have hnil : w.size u = 0 → [] = abs u := fun h0 =>
    (List.eq_nil_of_length_eq_zero (by rw [← (h.kept u).1, h0])).symm
  refine Safely.mono (insert_spec
    (fun w₁ p k => w₁.doCopy B T p k (w.arrayImpl u) (w.size u)) h hnil ?_) fun _ hx => hx.2
  intro w₁ q hindex hgap hframe hsame h1
  obtain ⟨hread, hapart, hitems⟩ := source_spec h hallowed hgap hframe hsame h1
  refine ⟨abs u, rfl, (h.kept u).1.symm, ?_⟩
  rw [hgap.doCopy_eq hindex hread hapart, hitems]

/-- Where one item `x` is: outside of all vectors, or among those of a vector other than `v`. -/
def ItemOf (w : World H P ν α) (v : ν) (abs : ν → List α) (src : Source P α) (x : α) : Prop :=
  src = .values [x] ∨ ∃ u p j, u ≠ v ∧ (w.vec u).mStorage = some p ∧ src = .storage p j ∧
    (abs u)[j]? = some x

/-- It can be read whatever is done with the storage that `v` alone has. -/
theorem ItemOf.read {src : Source P α} {x : α} {w₁ : World H P ν α} (index n : Nat)
    (h : w.ItemOf v abs src x) (hframe : ∀ u, u ≠ v → w₁.vec u = w.vec u)
    (howns : w₁.Owns B T v q abs) :
    w₁.Readable B T src 1 ∧ Apart q index n src 1 ∧ w₁.items src 1 = [x] ∧
      ∀ j, src ≠ .storage q j := by
  obtain rfl | ⟨u, p, j, hu, hs, rfl, hx⟩ := h
  · exact ⟨le_rfl, trivial, rfl, by simp⟩
  · have hk := howns.rest.kept u hu
    rw [Keeps, hframe u hu, hs] at hk
    have hholds : w₁.Holds B T p (abs u) := hk.2
    have hnone := howns.rest.others_eq_empty List.mem_cons_self howns.sole
    have hpq : p ≠ q := ne_of_others_eq_empty hnone hu (by rw [hframe u hu, hs])
    obtain ⟨hj, rfl⟩ := List.getElem?_eq_some_iff.mp hx
    refine ⟨hholds.readable (by omega), fun h => absurd h hpq, ?_, fun k hk => hpq ?_⟩
    · rw [hholds.items_eq (by omega), List.drop_eq_getElem_cons hj]
      rfl
    · cases hk
      rfl

theorem insertAt_item {src : Source P α} {x : α} {index : Nat} (h : w.Refines B T abs)
    (hitem : w.ItemOf v abs src x) :
    Safely (w.insertAt B T v (some src) index 1) fun (w', r) =>
      (∀ u, u ≠ v → w'.vec u = w.vec u) ∧
      ∃ abs', Inserted abs v index (· = [x]) (w.growRefused B T v index 1) r abs' ∧
        w'.Refines B T abs' := by
  refine insert_spec (fun w p k => w.doSplat B T p k src 1) h (fun h0 => by cases h0) ?_
  intro w₁ q hindex hgap hframe _ _
  have hroom := hgap.room
  obtain ⟨hread, hapart, hitems, -⟩ := hitem.read index 1 hframe hgap.owns
  refine ⟨[x], rfl, rfl, ?_⟩
  simp only [doSplat, Nat.min_self]
  rw [if_pos ⟨by omega, hread, hapart, hgap.vacant⟩, hitems]
  rfl

theorem insertAt_spec (item : Option α) {index n : Nat} (h : w.Refines B T abs) :
    Safely (w.insertAt B T v (item.map fun x => .values [x]) index n) fun (w', r) =>
      ∃ abs', Inserted abs v index (NewItems T item n) (w.growRefused B T v index n) r abs' ∧
        w'.Refines B T abs' := by
  cases item with
  | some x =>
    refine (insert_spec (fun w p k => w.doSplat B T p k (.values [x]) n) h
      (fun h0 => by subst h0; rfl) ?_).mono fun _ hx => hx.2
    intro w₁ q hindex hgap _ _ _
    have hroom := hgap.room
    refine ⟨List.replicate n x, rfl, List.length_replicate, ?_⟩
    have hread : w₁.Readable B T (.values [x]) (min n 1) := by simp [Readable]
    have hsplat : (w₁.items (.values [x]) (min n 1)).flatMap (List.replicate n) =
        List.replicate n x := by
      cases n with
      | zero => simp [items]
      | succ n => simp [items]
    have hapart : Apart q index n (.values [x]) (min n 1) := trivial
    rw [doSplat, if_pos ⟨by omega, hread, hapart, hgap.vacant⟩, hsplat]
  | none =>
    refine (insert_spec (fun w p k => w.doConstruct B T p k n) h
      (fun h0 => constructed_nil h0) ?_).mono fun _ hx => hx.2
    intro w₁ q hindex hgap _ _ _
    obtain ⟨ys, hnew, heq⟩ := hgap.doConstruct_eq hindex
    exact ⟨ys, hnew, hnew.1, heq⟩

/-! ## Removals -/

/-- `_shrink` returns nothing, so nobody is told when it is refused. -/
theorem shrink_removed {index count : Nat} (h : w.Refines B T abs)
    (hle : index + count ≤ (abs v).length) :
    Safely (w.shrink B T v index count) fun w' =>
      ∃ abs', Removed abs v index count (w.shrinkRefused B T v index count) abs' ∧
        w'.Refines B T abs' := by
  obtain ⟨hr, hk⟩ := refines_iff_rest.mp h
  refine (shrink_spec hr hk hle).mono ?_
  rintro w₁ ⟨-, -, hpost⟩
  refine ⟨_, rfl, ?_⟩
  split
  · next hrefused =>
    rw [if_pos hrefused] at hpost
    exact Refines.keep (hpost.refines hr hk)
  · next hrefused =>
    rwa [if_neg hrefused] at hpost

theorem removeItemsAt_of_le {index count : Nat} (h : w.Refines B T abs)
    (hle : index + count ≤ (abs v).length) :
    Safely (w.removeItemsAt B T v index count) fun (w', r) =>
      r = .ok index ∧ ∃ abs', Removed abs v index count (w.shrinkRefused B T v index count) abs' ∧
        w'.Refines B T abs' := by
  have hn : w.size v = (abs v).length := (h.kept v).1
  have hmod : (index + count) % sizeT ≤ index + count := Nat.mod_le _ _
  rw [removeItemsAt, if_neg (by omega)]
  exact Safely.bind _ (shrink_removed h hle) fun w₁ hremoved => ⟨rfl, hremoved⟩

theorem removeItemsAt_spec {index count : Nat} (h : w.Refines B T abs)
    (hend : index + count < sizeT) :
    Safely (w.removeItemsAt B T v index count) fun (w', r) =>
      ∃ abs', ((r = .ok index ∧ index + count ≤ (abs v).length ∧
          Removed abs v index count (w.shrinkRefused B T v index count) abs') ∨
        (r = .error .badValue ∧ (abs v).length < index + count ∧ abs' = abs)) ∧
        w'.Refines B T abs' := by
  have hn : w.size v = (abs v).length := (h.kept v).1
  by_cases hle : index + count ≤ (abs v).length
  · refine (removeItemsAt_of_le h hle).mono ?_
    rintro ⟨w₁, r⟩ ⟨rfl, abs', hremoved, h'⟩
    exact ⟨abs', .inl ⟨rfl, hle, hremoved⟩, h'⟩
  · rw [removeItemsAt, Nat.mod_eq_of_lt hend, if_pos (by omega)]
    exact ⟨abs, .inr ⟨rfl, by omega, rfl⟩, h⟩

theorem clear_spec (h : w.Refines B T abs) :
    Safely (w.clear B T v) fun w' =>
      ∃ abs', Removed abs v 0 (abs v).length (w.shrinkRefused B T v 0 (w.size v)) abs' ∧
        w'.Refines B T abs' := by
  have hn : w.size v = (abs v).length := (h.kept v).1
  rw [clear, hn]
  exact shrink_removed h (by omega)

theorem pop_spec (h : w.Refines B T abs) :
    Safely (w.pop B T v) fun w' =>
      ∃ abs', Removed abs v ((abs v).length - 1) 1 (w.shrinkRefused B T v (w.size v - 1) 1) abs' ∧
        w'.Refines B T abs' := by
  have hn : w.size v = (abs v).length := (h.kept v).1
  rw [pop]
  by_cases h0 : w.size v ≠ 0
  · rw [if_pos h0, hn]
    refine Safely.bind _ (removeItemsAt_of_le h (by omega)) ?_
    rintro ⟨w₁, r⟩ ⟨-, hremoved⟩
    exact hremoved
  · rw [if_neg h0]
    have hnil : abs v = [] := List.eq_nil_of_length_eq_zero (by omega)
    refine ⟨abs, ?_, h⟩
    rw [Removed, hnil, List.take_nil, List.drop_nil, List.append_nil, ← hnil,
      Function.update_eq_self, ite_self]

theorem resize_spec {size : Nat} (h : w.Refines B T abs) :
    Safely (w.resize B T v size) fun (w', r) =>
      ∃ abs', ((r = .ok size ∧ w.resizeRefused B T v size = false ∧
          ∃ ys, Constructed T (size - (abs v).length) ys ∧
            abs' = Function.update abs v ((abs v).take size ++ ys)) ∨
        (abs' = abs ∧ w.resizeRefused B T v size = true ∧
          r = if (abs v).length < size then .error .noMemory else .ok size)) ∧
        w'.Refines B T abs' := by
  have hn : w.size v = (abs v).length := (h.kept v).1
  rw [resize, resizeRefused, hn]
  by_cases hgrow : (abs v).length < size
  · rw [if_pos hgrow, if_pos hgrow, if_pos hgrow]
    refine Safely.bind _ (insertAt_spec none h) ?_
    rintro ⟨w₁, r⟩ ⟨abs', ⟨rfl, hrefused, -, ys, hnew, hys⟩ |
      ⟨rfl, ⟨-, hlt⟩ | ⟨rfl, -, hrefused⟩⟩, h'⟩
    · refine ⟨abs', .inl ⟨rfl, hrefused, ys, hnew, ?_⟩, h'⟩
      rw [hys, List.take_of_length_le (by omega), List.take_of_length_le (by omega),
        List.drop_of_length_le (by omega), List.append_nil]
    · omega
    · obtain hrefused | ⟨hnone, -⟩ := hrefused
      · exact ⟨abs', .inr ⟨rfl, hrefused, rfl⟩, h'⟩
      · simp at hnone
        omega
  · rw [if_neg hgrow, if_neg hgrow, if_neg hgrow]
    by_cases hshrink : size < (abs v).length
    · rw [if_pos hshrink, decide_eq_true hshrink, Bool.true_and]
      refine Safely.bind _ (removeItemsAt_of_le h (by omega)) ?_
      rintro ⟨w₁, r⟩ ⟨rfl, abs', hremoved, h'⟩
      refine ⟨abs', ?_, h'⟩
      rw [Removed] at hremoved
      split at hremoved
      · next hrefused => exact .inr ⟨hremoved, hrefused, rfl⟩
      · next hrefused =>
        refine .inl ⟨rfl, Bool.eq_false_of_not_eq_true hrefused, [], constructed_nil (by omega), ?_⟩
        rw [hremoved, List.drop_of_length_le (by omega)]
    · rw [if_neg hshrink, decide_eq_false hshrink, Bool.false_and]
      refine ⟨abs, .inl ⟨rfl, rfl, [], constructed_nil (by omega), ?_⟩, h⟩
      rw [List.append_nil, List.take_of_length_le (by omega), Function.update_eq_self]

/-! ## Replacing an item -/

theorem Gap.replace {index : Nat} {x : α} (hindex : index < xs.length)
    (h : w.Gap B T v q abs (xs.take index ++ xs.drop (index + 1)) index [x].length) :
    (w.setMem q ((w.mem q).build index [x])).Refines B T
      (Function.update abs v (xs.set index x)) := by
  refine (h.owns.setMem _).refines_of_holds (h.replace_holds hindex) ?_
  have hcount := h.count
  simp [size] at hcount ⊢
  omega

/-- The item can be destroyed, and there is room for a new one then. -/
theorem editItemLocation_spec {index : Nat} (h : w.Refines B T abs)
    (hindex : index < (abs v).length) :
    Safely (w.editItemLocation B T v index) fun (w₁, o) =>
      ∃ q w₂, o = some (q, index) ∧ w₁.doDestroy B T q index 1 = .ok w₂ ∧
        (∀ u, u ≠ v → w₂.vec u = w.vec u) ∧
        w₂.Gap B T v q abs ((abs v).take index ++ (abs v).drop (index + 1)) index 1 := by
  obtain ⟨hr, hk⟩ := refines_iff_rest.mp h
  have hn : w.size v = (abs v).length := hk.1
  have hcap : index < w.capacity B T v := by
    cases hs : (w.vec v).mStorage with
    | none =>
      have hnil : abs v = [] := by simpa [hs] using hk.2
      simp [hnil] at hindex
    | some p =>
      have hx : w.Holds B T p (abs v) := by simpa [hs] using hk.2
      have hroom := hx.room
      simp only [capacity, hs]
      omega
  rw [editItemLocation, if_pos hcap]
  refine Safely.bind _ (editArrayImpl_spec hr hk) ?_
  rintro ⟨w₁, o⟩ ⟨hframe, hsize, hsame, hpost⟩
  cases o with
  | none =>
    have hnil : abs v = [] := by simpa [hpost.2] using hk.2
    simp [hnil] at hindex
  | some q =>
    obtain ⟨howns, hx, -⟩ := hpost
    obtain ⟨w₂, hdestroy, hvec, hgap⟩ := destroyed_gap howns hx (hsize.trans hn) hindex
    exact ⟨q, w₂, rfl, hdestroy, fun u hu => by rw [hvec, hframe u hu], hgap⟩

theorem replaceAt_item {src : Source P α} {x : α} {index : Nat} (h : w.Refines B T abs)
    (hitem : w.ItemOf v abs src x) (hindex : index < (abs v).length) :
    Safely (w.replaceAt B T v (some src) index) fun (w', r) =>
      (∀ u, u ≠ v → w'.vec u = w.vec u) ∧ r = .ok index ∧
        w'.Refines B T (Function.update abs v ((abs v).set index x)) := by
  have hn : w.size v = (abs v).length := (h.kept v).1
  rw [replaceAt, if_neg (by omega)]
  refine Safely.bind _ (editItemLocation_spec h hindex) ?_
  rintro ⟨w₁, o⟩ ⟨q, w₂, rfl, hdestroy, hframe, hgap⟩
  have hpos : index ≤ ((abs v).take index ++ (abs v).drop (index + 1)).length := by
    simp
    omega
  obtain ⟨hread, hapart, hitems, hne⟩ := hitem.read index 1 hframe hgap.owns
  have heq := hgap.doCopy_eq hpos hread hapart
  rw [hitems] at heq
  have hdone := Gap.replace (x := x) hindex hgap
  cases src with
  | values xs =>
    simp only [hdestroy, heq, bind, Except.bind, pure, Except.pure]
    exact ⟨hframe, rfl, hdone⟩
  | storage p j =>
    have hpq : ¬ (q = p ∧ index = j) := fun hsame => hne j (by rw [hsame.1])
    simp only [if_neg hpq, hdestroy, heq, bind, Except.bind, pure, Except.pure]
    exact ⟨hframe, rfl, hdone⟩

theorem replaceAt_spec {item : Option α} {index : Nat} (h : w.Refines B T abs) :
    Safely (w.replaceAt B T v (item.map fun x => .values [x]) index) fun (w', r) =>
      ∃ abs', ((r = .ok index ∧ index < (abs v).length ∧
          ∃ x, NewItems T item 1 [x] ∧ abs' = Function.update abs v ((abs v).set index x)) ∨
        (r = .error .badIndex ∧ (abs v).length ≤ index ∧ abs' = abs)) ∧
        w'.Refines B T abs' := by
  have hn : w.size v = (abs v).length := (h.kept v).1
  by_cases hle : w.size v ≤ index
  · rw [replaceAt, if_pos hle]
    exact ⟨abs, .inr ⟨rfl, by omega, rfl⟩, h⟩
  · have hindex : index < (abs v).length := by omega
    cases item with
    | some x =>
      refine (replaceAt_item h (.inl rfl) hindex).mono ?_
      rintro ⟨w₁, r⟩ ⟨-, rfl, hdone⟩
      exact ⟨_, .inl ⟨rfl, hindex, x, rfl, rfl⟩, hdone⟩
    | none =>
      rw [replaceAt, if_neg hle]
      refine Safely.bind _ (editItemLocation_spec h hindex) ?_
      rintro ⟨w₁, o⟩ ⟨q, w₂, rfl, hdestroy, -, hgap⟩
      obtain ⟨ys, ⟨hlen, hnew⟩, heq⟩ := hgap.doConstruct_eq (by simp; omega)
      obtain ⟨x, rfl⟩ := List.length_eq_one_iff.mp hlen
      simp only [hdestroy, heq, bind, Except.bind, pure, Except.pure, Option.map_none]
      exact ⟨_, .inl ⟨rfl, hindex, x, ⟨hlen, hnew⟩, rfl⟩, Gap.replace hindex hgap⟩

/-! ## Storage -/

omit [DecidableEq ν] in
theorem capacity_ge (h : w.Refines B T abs) : (abs v).length ≤ w.capacity B T v := by
  have hk := (h.kept v).2
  unfold capacity
  cases hs : (w.vec v).mStorage with
  | none =>
    have hnil : abs v = [] := by simpa [hs] using hk
    simp [hnil]
  | some p =>
    have hx : w.Holds B T p (abs v) := by simpa [hs] using hk
    exact hx.room

theorem setCapacity_spec {n : Nat} (h : w.Refines B T abs) :
    Safely (w.setCapacity B T v n) fun (w', r) => w'.Refines B T abs ∧
      if n ≤ (abs v).length then ∃ capacity, r = .ok capacity ∧ (abs v).length ≤ capacity
      else r = if (B.alloc w.heap (n * T.itemSize)).2.isNone then .error .noMemory else .ok n := by
  obtain ⟨hr, hk⟩ := refines_iff_rest.mp h
  have hn : w.size v = (abs v).length := hk.1
  rw [setCapacity, hn]
  by_cases hle : n ≤ (abs v).length
  · simp only [if_pos hle]
    exact ⟨h, _, rfl, capacity_ge h⟩
  · simp only [if_neg hle]
    refine safely_guardFatal fun _ => ?_
    obtain ⟨w₁, o, heq, hrefused, hpost⟩ := replaceStorage_spec (n * T.itemSize)
      (fun w q => w.doCopy B T q 0 (w.arrayImpl v) (w.size v))
      (fun b => b.Filled 0 (abs v) ∧ (T.trivialDtor = false → b.RawFrom (abs v).length)) hr hk (by
        intro heap q hf hq
        have hslots : slots B T { w with heap := heap } q = n := slots_eq (by simp [hf.size])
        have hsize : size { w with heap := heap } v = (abs v).length := hn
        rw [hsize]
        cases hs : (w.vec v).mStorage with
        | none =>
          have hnil : abs v = [] := by simpa [hs] using hk.2
          have harray : arrayImpl { w with heap := heap } v = .values [] := by
            simp [arrayImpl, hs]
          rw [harray, hnil]
          refine ⟨_, doCopy_eq (by simp) le_rfl trivial (vacant_of_rawFrom hf.raw), ?_, ?_⟩
          · exact Block.filled_nil
          · exact fun ht => ((hf.raw ht).mono (Nat.zero_le _)).build (by simp [items])
        | some p =>
          have hpq : p ≠ q := fun h => hq (h ▸ hs)
          have hx : w.Holds B T p (abs v) := by simpa [hs] using hk.2
          have hx₁ := hf.holds hpq hx
          have harray : arrayImpl { w with heap := heap } v = .storage p 0 := by
            simp [arrayImpl, hs]
          have hitems := hx₁.items_eq (k := 0) (n := (abs v).length) (by omega)
          rw [List.drop_zero, List.take_length] at hitems
          rw [harray]
          refine ⟨_, doCopy_eq (by omega) (hx₁.readable (by omega)) (fun h => absurd h hpq)
            (vacant_of_rawFrom hf.raw), ?_, fun ht => ?_⟩
          · rw [hitems]
            exact Block.filled_build
          · rw [hitems]
            exact ((hf.raw ht).mono (Nat.zero_le _)).build (by simp))
    rw [heq, ← hrefused]
    cases o with
    | none => exact ⟨Refines.keep (hpost.refines hr hk), rfl⟩
    | some q =>
      obtain ⟨howns, hsize, hq, ⟨hfilled, hraw⟩, -⟩ := hpost
      refine ⟨Refines.keep (howns.refines_of_holds ⟨hfilled, ?_, hraw⟩ (hsize.trans hn)), rfl⟩
      rw [slots_eq hq]
      omega

/-- The vector gives up its storage. -/
theorem released_spec (h : w.Refines B T abs) :
    ∃ w', w.releaseStorage B T v = .ok w' ∧ w'.Rest B T v [] abs ∧ w'.vec = w.vec := by
  obtain ⟨hr, hk⟩ := (refines_iff_rest (v := v)).mp h
  cases hs : (w.vec v).mStorage with
  | none => exact ⟨w, by simp [releaseStorage, hs], by simpa [hs] using hr, rfl⟩
  | some p =>
    obtain ⟨w₁, heq, hr₁, hvec, -⟩ := releaseStorage_spec (by simpa [hs] using hr) hs hk.1
      (by simpa [hs] using hk.2)
    exact ⟨w₁, heq, hr₁, hvec⟩

theorem Rest.acquire (h : w.Rest B T v hand abs) (hp : 0 < B.refs w.heap p) :
    Rest B T { w with heap := B.acquire w.heap p } v (p :: hand) abs := by
  obtain ⟨hrefs, hsize⟩ := B.acquire_eq hp
  refine ⟨fun r => ?_, fun r => ?_, fun ht r hr => ?_, fun u hu => ?_⟩
  · have hothers : others { w with heap := B.acquire w.heap p } v r = w.others v r := rfl
    have := h.counts r
    simp only [hrefs, hothers]
    by_cases hrp : r = p
    · subst hrp
      rw [Function.update_self, List.count_cons_self]
      omega
    · rw [Function.update_of_ne hrp, List.count_cons_of_ne (Ne.symm hrp), this]
  · simp only [hrefs, hsize]
    by_cases hrp : r = p
    · subst hrp
      rw [Function.update_self, h.freed r]
      omega
    · rw [Function.update_of_ne hrp]
      exact h.freed r
  · rw [hsize] at hr
    exact h.raw ht r hr
  · exact (h.kept u hu).congr rfl fun _ _ => ⟨rfl, by rw [hsize]⟩

/-- The vector has what another one has, and a reference to it. -/
theorem Rest.share (h : w.Rest B T v [] abs) (huv : u ≠ v) (hp : (w.vec u).mStorage = some p) :
    Refines B T { w.setVec v (w.vec u) with heap := B.acquire w.heap p }
      (Function.update abs v (abs u)) := by
  have hmem : u ∈ w.others v p := by simp [others, huv, hp]
  have hcount := h.counts p
  have hpos := Finset.card_pos.mpr ⟨u, hmem⟩
  have hacquired := (h.setVec (w.vec u)).acquire (p := p) (by
    rw [setVec_heap]
    omega)
  have hu := hacquired.kept u huv
  have hvec : (w.setVec v (w.vec u)).vec u = (w.setVec v (w.vec u)).vec v := by
    rw [setVec_vec_of_ne huv, setVec_vec]
  refine Rest.refines ?_ ?_
  · simp only [setVec_vec, hp]
    exact hacquired
  · simp only [Keeps, size] at hu ⊢
    rwa [hvec] at hu

theorem Rest.empty (h : w.Rest B T v [] abs) :
    (w.setVec v ⟨none, 0⟩).Refines B T (Function.update abs v []) := by
  refine Rest.refines ?_ ⟨by simp [size], by simp⟩
  simpa using h.setVec ⟨none, 0⟩

theorem finishVector_spec (h : w.Refines B T abs) :
    Safely (w.finishVector B T v) fun w' => w'.Refines B T (Function.update abs v []) := by
  obtain ⟨w₁, heq, hr, -⟩ := released_spec (v := v) h
  rw [finishVector, heq]
  exact hr.empty

theorem assign_spec (h : w.Refines B T abs) :
    Safely (w.assign B T v u) fun w' => w'.Refines B T (Function.update abs v (abs u)) := by
  rw [assign]
  by_cases hvu : v = u
  · subst hvu
    rw [if_pos rfl, Function.update_eq_self]
    exact h
  · rw [if_neg hvu]
    obtain ⟨w₁, heq, hr, hvec⟩ := released_spec (v := v) h
    have hk := h.kept u
    have hn : w.size u = (abs u).length := hk.1
    have hsize : w₁.size u = w.size u := by rw [size, hvec, size]
    rw [heq]
    simp only [bind, Except.bind, hsize]
    by_cases h0 : w.size u ≠ 0
    · rw [if_pos h0]
      cases hs : (w.vec u).mStorage with
      | none =>
        have hnil : abs u = [] := by simpa [hs] using hk.2
        simp [hn, hnil] at h0
      | some p =>
        have hp : (w₁.vec u).mStorage = some p := by rw [hvec, hs]
        simp only [setVec_vec, hp]
        exact hr.share (Ne.symm hvu) hp
    · rw [if_neg h0]
      have hnil : abs u = [] := List.eq_nil_of_length_eq_zero (by omega)
      rw [hnil]
      exact hr.empty

theorem copyOf_spec (h : w.Refines B T abs) (hv : w.vec v = ⟨none, 0⟩) (huv : u ≠ v) :
    (w.copyOf B v u).Refines B T (Function.update abs v (abs u)) := by
  have hr : w.Rest B T v [] abs := by simpa [hv] using ((refines_iff_rest (v := v)).mp h).1
  cases hs : (w.vec u).mStorage with
  | none =>
    have hk := h.kept u
    have hnil : abs u = [] := by simpa [hs] using hk.2
    have hempty : w.vec u = ⟨none, 0⟩ := by
      have hn : (w.vec u).mCount = 0 := by simpa [hnil, size] using hk.1
      cases hu : w.vec u
      simp_all
    simp only [copyOf, setVec_vec, hs]
    rw [hempty, hnil]
    exact hr.empty
  | some p =>
    simp only [copyOf, setVec_vec, hs]
    exact hr.share huv hs

theorem create_spec (h : w.Refines B T abs) (hv : w.vec v = ⟨none, 0⟩) :
    (w.create v).Refines B T (Function.update abs v []) := by
  have hr : w.Rest B T v [] abs := by simpa [hv] using ((refines_iff_rest (v := v)).mp h).1
  exact hr.empty

/-! ## All calls -/

/-- An allowed call has its effect, unless it ends the program. -/
theorem call_spec {c : Call ν α} (h : w.Refines B T abs) (hc : w.Allowed B c) :
    Safely (w.call B T c) fun (w', r) =>
      ∃ abs', c.Effect T abs (w.refused B T c) r abs' ∧ w'.Refines B T abs' := by
  have hlen (v : ν) : w.size v = (abs v).length := (h.kept v).1
  cases c with
  | create v => exact ⟨_, rfl, create_spec h hc⟩
  | copyOf v u => exact ⟨_, rfl, copyOf_spec h hc.1 hc.2⟩
  | assign v u => exact Safely.bind _ (assign_spec h) fun w' h' => ⟨_, rfl, h'⟩
  | insertArrayAt v xs index => exact insertArrayAt_spec h
  | insertVectorAt v u index => exact insertVectorAt_spec index h hc
  | appendVector v u =>
    have happend := insertVectorAt_spec (w.size v) h hc
    simp only [call, appendVector, refused, hlen v] at happend ⊢
    exact happend
  | appendArray v xs =>
    simp only [call, appendArray, refused, hlen v]
    exact insertArrayAt_spec h
  | insertAt v item index n => exact insertAt_spec item h
  | add v item =>
    simp only [call, add, refused, hlen v]
    exact insertAt_spec item h
  | push v item =>
    simp only [call, push, refused, hlen v, bind_assoc]
    exact Safely.bind _ (insertAt_spec item h) fun x ⟨abs', hi, h'⟩ => ⟨abs', ⟨_, hi⟩, h'⟩
  | replaceAt v item index => exact replaceAt_spec h
  | removeItemsAt v index count => exact removeItemsAt_spec h hc
  | pop v => exact Safely.bind _ (pop_spec h) fun w' h' => h'
  | clear v => exact Safely.bind _ (clear_spec h) fun w' h' => h'
  | setCapacity v n => exact (setCapacity_spec h).mono fun x hx => ⟨abs, ⟨rfl, hx.2⟩, hx.1⟩
  | resize v n => exact resize_spec h
  | sort v cmp malloc =>
    refine (sort_spec cmp malloc h).mono ?_
    rintro ⟨w₁, r⟩ (⟨hmem, rfl, hdone⟩ | ⟨hm, hchain, rfl, hsame⟩)
    · refine ⟨_, ?_, hdone⟩
      rw [Effect, if_pos hmem]
      exact ⟨rfl, rfl⟩
    · refine ⟨abs, ?_, hsame⟩
      rw [Effect, if_neg (by simp [hm, hchain])]
      exact ⟨rfl, rfl⟩
  | finishVector v => exact Safely.bind _ (finishVector_spec h) fun w' h' => ⟨_, rfl, h'⟩

end World
end Vector
end Huashan
