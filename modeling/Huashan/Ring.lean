import Mathlib

/-!
# Huashan.Ring

Circular doubly linked lists with a sentinel, as the fields `next` and `prev` of their nodes. A
null pointer is `none`, and so is an operation that follows one.

* `IsRing l s xs`: from the sentinel `s`, both ways round, are the nodes `xs`.
* `IsRing.insertBefore`, `IsRing.unlink`: the two operations as changes of that list.
* `IsRing.congr`: a ring does not depend on the fields of other nodes.
-/

namespace Huashan

structure Links (α : Type*) where
  next : α → Option α
  prev : α → Option α

namespace Links

section Operations

variable {α : Type*} [DecidableEq α]

def setNext (l : Links α) (a : α) (b : Option α) : Links α :=
  { l with next := Function.update l.next a b }

def setPrev (l : Links α) (a : α) (b : Option α) : Links α :=
  { l with prev := Function.update l.prev a b }

/-- Put `a` in front of `b`. -/
def insertBefore (l : Links α) (a b : α) : Option (Links α) := do
  let l := l.setNext a (some b)
  let l := l.setPrev a (l.prev b)
  let p ← l.prev a
  let l := l.setNext p (some a)
  return l.setPrev b (some a)

/-- Take `a` out, and leave it without neighbours. -/
def unlink (l : Links α) (a : α) : Option (Links α) := do
  let n ← l.next a
  let l := l.setPrev n (l.prev a)
  let p ← l.prev a
  let l := l.setNext p (l.next a)
  return (l.setNext a none).setPrev a none

/-- A sentinel alone. -/
def init (l : Links α) (s : α) : Links α := (l.setNext s (some s)).setPrev s (some s)

/-- The fields after `a` was put between `p` and `n`. -/
def spliced (l : Links α) (p a n : α) : Links α where
  next := Function.update (Function.update l.next a (some n)) p (some a)
  prev := Function.update (Function.update l.prev a (some p)) n (some a)

/-- The fields after `a` was taken out from between `p` and `n`. -/
def bypassed (l : Links α) (p a n : α) : Links α where
  next := Function.update (Function.update l.next p (some n)) a none
  prev := Function.update (Function.update l.prev n (some p)) a none

variable {l : Links α} {a b n p : α}

theorem insertBefore_eq (h : l.prev n = some p) (a : α) :
    l.insertBefore a n = some (l.spliced p a n) := by
  simp [insertBefore, setNext, setPrev, spliced, h]

theorem unlink_eq (hn : l.next a = some n) (hp : l.prev a = some p) (hne : a ≠ n) :
    l.unlink a = some (l.bypassed p a n) := by
  simp [unlink, setNext, setPrev, bypassed, hn, hp, hne]

end Operations

/-! ## Paths -/

section Paths

variable {α : Type*}

/-- Each of two neighbours points to the other one. -/
def Linked (l : Links α) (a b : α) : Prop := l.next a = some b ∧ l.prev b = some a

/-- From `a` through the nodes of a list to `b`. -/
def Path (l : Links α) : α → List α → α → Prop
  | a, [], b => l.Linked a b
  | a, x :: xs, b => l.Linked a x ∧ l.Path x xs b

variable {l l' : Links α} {a b p : α} {xs ys : List α}

/-- From the first of the nodes through the others to `b`. -/
def Rest (l : Links α) : List α → α → Prop
  | [], _ => True
  | y :: ys, b => l.Path y ys b

theorem path_iff : l.Path a ys b ↔ l.Linked a (ys.headD b) ∧ l.Rest ys b := by
  cases ys with
  | nil => exact ⟨fun h => ⟨h, trivial⟩, fun h => h.1⟩
  | cons y ys => exact Iff.rfl

theorem path_append : l.Path a (xs ++ ys) b ↔ l.Path a xs (ys.headD b) ∧ l.Rest ys b := by
  induction xs generalizing a with
  | nil => exact path_iff
  | cons x xs ih => simp only [List.cons_append, Path, ih, and_assoc]

theorem Path.next_eq (h : l.Path a xs b) : l.next a = some (xs.headD b) := by
  cases xs with
  | nil => exact h.1
  | cons x xs => exact h.1.1

theorem Rest.next_eq (h : l.Rest (a :: ys) b) :
    l.next a = some (ys.headD b) ∧ l.Rest ys b := ⟨Path.next_eq h, (path_iff.mp h).2⟩

theorem Path.exists_prev (h : l.Path a xs b) : ∃ p ∈ a :: xs, l.prev b = some p := by
  induction xs generalizing a with
  | nil => exact ⟨a, List.mem_cons_self, h.2⟩
  | cons x xs ih =>
    obtain ⟨p, hp, hprev⟩ := ih h.2
    exact ⟨p, List.mem_cons_of_mem a hp, hprev⟩

theorem Path.mem_of_prev (h : l.Path a xs b) (hp : l.prev b = some p) : p ∈ a :: xs := by
  obtain ⟨p', hmem, hp'⟩ := h.exists_prev
  rw [hp] at hp'
  cases hp'
  exact hmem

/-- A path reads `next` of all its nodes but the last, and `prev` of all but the first. -/
theorem Path.congr (h : l.Path a xs b) (hnext : ∀ c ∈ a :: xs, l'.next c = l.next c)
    (hprev : ∀ c ∈ xs ++ [b], l'.prev c = l.prev c) : l'.Path a xs b := by
  induction xs generalizing a with
  | nil =>
    refine ⟨?_, ?_⟩
    · rw [hnext a List.mem_cons_self]
      exact h.1
    · rw [hprev b (by simp)]
      exact h.2
  | cons x xs ih =>
    obtain ⟨⟨hax, hxa⟩, hrest⟩ := h
    refine ⟨⟨?_, ?_⟩, ih hrest (fun c hc => hnext c (List.mem_cons_of_mem a hc))
      fun c hc => hprev c (List.mem_cons_of_mem x hc)⟩
    · rw [hnext a List.mem_cons_self, hax]
    · rw [hprev x List.mem_cons_self, hxa]

theorem Rest.congr (h : l.Rest ys b) (hnodup : (ys ++ [b]).Nodup)
    (hnext : ∀ c ∈ ys, l'.next c = l.next c)
    (hprev : ∀ c ∈ ys ++ [b], c ≠ ys.headD b → l'.prev c = l.prev c) : l'.Rest ys b := by
  cases ys with
  | nil => trivial
  | cons y ys =>
    rw [List.cons_append, List.nodup_cons] at hnodup
    refine Path.congr h hnext fun c hc => hprev c (List.mem_cons_of_mem y hc) fun he => ?_
    rw [List.headD_cons] at he
    exact hnodup.1 (he ▸ hc)

/-- The last node `p` of a path to `b` is linked to `c` instead. -/
theorem Path.redirect {c : α} (h : l.Path a xs b) (hp : l.prev b = some p)
    (hnodup : (a :: xs).Nodup) (hnext : ∀ x ∈ a :: xs, x ≠ p → l'.next x = l.next x)
    (hprev : ∀ x ∈ xs, l'.prev x = l.prev x) (hpc : l'.Linked p c) : l'.Path a xs c := by
  induction xs generalizing a with
  | nil =>
    have hpa : p = a := by
      have hback := h.2
      rw [hp] at hback
      exact Option.some.inj hback
    rw [hpa] at hpc
    exact hpc
  | cons x xs ih =>
    obtain ⟨⟨hax, hxa⟩, hrest⟩ := h
    rw [List.nodup_cons] at hnodup
    obtain ⟨ha, hxs⟩ := hnodup
    have hpx : p ∈ x :: xs := hrest.mem_of_prev hp
    have hap : a ≠ p := fun he => ha (he ▸ hpx)
    refine ⟨⟨?_, ?_⟩, ih hrest hxs (fun y hy => hnext y (List.mem_cons_of_mem a hy))
      fun y hy => hprev y (List.mem_cons_of_mem x hy)⟩
    · rw [hnext a List.mem_cons_self hap, hax]
    · rw [hprev x List.mem_cons_self, hxa]

end Paths

/-! ## Rings -/

/-- From the sentinel `s` through the nodes `xs`, all different, back to `s`. -/
def IsRing {α : Type*} (l : Links α) (s : α) (xs : List α) : Prop :=
  (s :: xs).Nodup ∧ l.Path s xs s

/-- Both fields of the nodes outside of `xs` are the same. -/
def AgreeOff {α : Type*} (l l' : Links α) (xs : List α) : Prop :=
  ∀ c, c ∉ xs → l'.next c = l.next c ∧ l'.prev c = l.prev c

section Rings

variable {α : Type*} {l l' : Links α} {s a n p : α} {xs ys : List α}

theorem IsRing.congr (h : l.IsRing s xs) (hl : ∀ c ∈ s :: xs, l'.next c = l.next c ∧
    l'.prev c = l.prev c) : l'.IsRing s xs := by
  refine ⟨h.1, h.2.congr (fun c hc => (hl c hc).1) fun c hc => (hl c ?_).2⟩
  rcases List.mem_append.mp hc with hc | hc
  · exact List.mem_cons_of_mem s hc
  · rw [List.mem_singleton.mp hc]
    exact List.mem_cons_self

theorem AgreeOff.isRing (h : l.AgreeOff l' ys) (hring : l.IsRing s xs)
    (hdisjoint : ∀ c ∈ s :: xs, c ∉ ys) : l'.IsRing s xs :=
  hring.congr fun c hc => h c (hdisjoint c hc)

theorem IsRing.next_eq (h : l.IsRing s xs) : l.next s = some (xs.headD s) := h.2.next_eq

theorem IsRing.rest (h : l.IsRing s xs) : l.Rest xs s := (path_iff.mp h.2).2

variable [DecidableEq α]

/-- The fields that `spliced` leaves alone. -/
theorem spliced_of_ne {c : α} (hc : c ≠ a) :
    (c ≠ p → (l.spliced p a n).next c = l.next c) ∧
      (c ≠ n → (l.spliced p a n).prev c = l.prev c) :=
  ⟨fun hp => by simp [spliced, hp, hc], fun hn => by simp [spliced, hn, hc]⟩

theorem linked_spliced (hp : a ≠ p) (hn : a ≠ n) :
    (l.spliced p a n).Linked p a ∧ (l.spliced p a n).Linked a n := by
  simp [Linked, spliced, hp, hn]

/-- The fields that `bypassed` leaves alone. -/
theorem bypassed_of_ne {c : α} (hc : c ≠ a) :
    (c ≠ p → (l.bypassed p a n).next c = l.next c) ∧
      (c ≠ n → (l.bypassed p a n).prev c = l.prev c) :=
  ⟨fun hp => by simp [bypassed, hp, hc], fun hn => by simp [bypassed, hn, hc]⟩

theorem linked_bypassed (hp : p ≠ a) (hn : n ≠ a) : (l.bypassed p a n).Linked p n := by
  simp [Linked, bypassed, hp, hn]

/-- The nodes in front of and behind a place of a ring. -/
structure Place (s : α) (xs ys : List α) : Prop where
  front : (s :: xs).Nodup
  back : (ys ++ [s]).Nodup
  off : ∀ c ∈ ys, c ∉ s :: xs
  next_off : ys.headD s ∉ xs
  next_mem : ys.headD s ∈ s :: (xs ++ ys)

omit [DecidableEq α] in
theorem place_of_nodup (h : (s :: (xs ++ ys)).Nodup) : Place s xs ys := by
  rw [← List.cons_append, List.nodup_append] at h
  obtain ⟨hxs, hys, hne⟩ := h
  have hoff : ∀ c ∈ ys, c ∉ s :: xs := fun c hc hc' => hne c hc' c hc rfl
  refine ⟨hxs, ?_, hoff, ?_, by cases ys <;> simp⟩
  · refine List.nodup_append.mpr ⟨hys, List.nodup_singleton s, fun c hc d hd => ?_⟩
    rw [List.mem_singleton.mp hd]
    rintro rfl
    exact hoff c hc List.mem_cons_self
  · cases ys with
    | nil => exact (List.nodup_cons.mp hxs).1
    | cons y ys => exact fun hy => hoff y List.mem_cons_self (List.mem_cons_of_mem s hy)

omit [DecidableEq α] in
/-- A change of the links around a place, at a node `a` outside of the ring, of `next` at the node
in front of the place and of `prev` at the node behind it. -/
theorem Place.rejoin {b c : α} (h : Place s xs ys) (ha : a ∉ s :: (xs ++ ys))
    (hfront : l.Path s xs c) (hprev : l.prev c = some p) (hback : l.Rest ys s)
    (hkept : ∀ d, d ≠ a → (d ≠ p → l'.next d = l.next d) ∧
      (d ≠ ys.headD s → l'.prev d = l.prev d)) (hlinked : l'.Linked p b) :
    l'.Path s xs b ∧ l'.Rest ys s := by
  have hp : p ∈ s :: xs := hfront.mem_of_prev hprev
  have hne : ∀ d ∈ s :: (xs ++ ys), d ≠ a := fun d hd he => ha (he ▸ hd)
  have hxs : ∀ d ∈ s :: xs, d ≠ a := fun d hd =>
    hne d (List.cons_append ▸ List.mem_append_left ys hd)
  have hys : ∀ d ∈ ys, d ≠ a := fun d hd =>
    hne d (List.mem_cons_of_mem s (List.mem_append_right xs hd))
  refine ⟨hfront.redirect hprev h.front (fun d hd => (hkept d (hxs d hd)).1) (fun d hd => ?_)
    hlinked, hback.congr h.back (fun d hd => ?_) fun d hd => ?_⟩
  · exact (hkept d (hxs d (List.mem_cons_of_mem s hd))).2 fun he => h.next_off (he ▸ hd)
  · exact (hkept d (hys d hd)).1 fun he => h.off d hd (he ▸ hp)
  · refine (hkept d ?_).2
    rcases List.mem_append.mp hd with hd | hd
    · exact hys d hd
    · exact hne d (by simp [List.mem_singleton.mp hd])

/-- A node put in front of `ys` is between `xs` and `ys`. -/
theorem IsRing.insertBefore (h : l.IsRing s (xs ++ ys)) (ha : a ∉ s :: (xs ++ ys)) :
    ∃ l', l.insertBefore a (ys.headD s) = some l' ∧ l'.IsRing s (xs ++ a :: ys) ∧
      l.AgreeOff l' (a :: s :: (xs ++ ys)) := by
  have hplace := place_of_nodup h.1
  obtain ⟨hfront, hback⟩ := path_append.mp h.2
  obtain ⟨p, hp, hprev⟩ := hfront.exists_prev
  have hpmem : p ∈ s :: (xs ++ ys) := List.cons_append ▸ List.mem_append_left ys hp
  obtain ⟨hlinked, hlinked'⟩ := linked_spliced (l := l) (p := p) (a := a) (n := ys.headD s)
    (fun he => ha (he ▸ hpmem)) (fun he => ha (he ▸ hplace.next_mem))
  obtain ⟨hfront', hback'⟩ := hplace.rejoin ha hfront hprev hback (fun _ => spliced_of_ne) hlinked
  refine ⟨l.spliced p a (ys.headD s), insertBefore_eq hprev a, ⟨?_, ?_⟩, fun c hc => ?_⟩
  · rw [← List.cons_append, List.nodup_middle, List.cons_append]
    exact List.nodup_cons.mpr ⟨ha, h.1⟩
  · exact path_append.mpr ⟨hfront', path_iff.mpr ⟨hlinked', hback'⟩⟩
  · rw [List.mem_cons, not_or] at hc
    exact ⟨(spliced_of_ne hc.1).1 fun he => hc.2 (he ▸ hpmem),
      (spliced_of_ne hc.1).2 fun he => hc.2 (he ▸ hplace.next_mem)⟩

/-- A node taken out leaves the others. -/
theorem IsRing.unlink (h : l.IsRing s (xs ++ a :: ys)) :
    ∃ l', l.unlink a = some l' ∧ l'.IsRing s (xs ++ ys) ∧
      l.AgreeOff l' (s :: (xs ++ a :: ys)) := by
  have hnodup := h.1
  rw [← List.cons_append, List.nodup_middle, List.cons_append, List.nodup_cons] at hnodup
  obtain ⟨ha, hnodup⟩ := hnodup
  have hplace := place_of_nodup hnodup
  obtain ⟨hfront, hrest⟩ := path_append.mp h.2
  obtain ⟨⟨hnext, _⟩, hback⟩ := path_iff.mp hrest
  obtain ⟨p, hp, hprev⟩ := hfront.exists_prev
  have hpmem : p ∈ s :: (xs ++ ys) := List.cons_append ▸ List.mem_append_left ys hp
  have hpa : p ≠ a := fun he => ha (he ▸ hpmem)
  have hna : ys.headD s ≠ a := fun he => ha (he ▸ hplace.next_mem)
  obtain ⟨hfront', hback'⟩ := hplace.rejoin ha hfront hprev hback (fun _ => bypassed_of_ne)
    (linked_bypassed hpa hna)
  refine ⟨l.bypassed p a (ys.headD s), unlink_eq hnext hprev hna.symm,
    ⟨hnodup, path_append.mpr ⟨hfront', hback'⟩⟩, fun c hc => ?_⟩
  have hmem : ∀ d, d = a ∨ d ∈ s :: (xs ++ ys) → d ∈ s :: (xs ++ a :: ys) := by
    intro d hd
    simp only [List.mem_cons, List.mem_append] at hd ⊢
    tauto
  have hca : c ≠ a := fun he => hc (hmem c (.inl he))
  exact ⟨(bypassed_of_ne hca).1 fun he => hc (hmem c (.inr (he ▸ hpmem))),
    (bypassed_of_ne hca).2 fun he => hc (hmem c (.inr (he ▸ hplace.next_mem)))⟩

end Rings
end Links
end Huashan
