import Huashan.Run

/-!
# Huashan.Mailbox

A mailbox of messages that are due at times. A message that is posted waits until it is delivered
or cancelled. The one to be delivered is the one that is due first, and of those due at one time
the one that was posted first; it is not delivered before it is due.

* `Mailbox.Does`: what can happen to a mailbox.
* `Mailbox.LineDoes`: the same for a list that has the next message in front.
* `Mailbox.line_is_mailbox`: such a list is a mailbox, whatever happens to it.
* `Mailbox.counts`: what becomes of the messages that were posted.
-/

namespace Huashan

structure Mailbox (α : Type*) where
  /-- The messages that wait, each with the number of those posted before it. -/
  waiting : Set (ℕ × α)
  posted : ℕ

namespace Mailbox

inductive Action (τ α : Type*) where
  | post (a : α)
  /-- The messages with this property are taken away. -/
  | cancel (p : α → Bool)
  | deliver (now : τ) (a : α)

variable {τ α : Type*} [LinearOrder τ] {due : α → τ}

def empty : Mailbox α := ⟨∅, 0⟩

/-- `x` is to be delivered before `y`. -/
def Before (due : α → τ) (x y : ℕ × α) : Prop :=
  due x.2 < due y.2 ∨ due x.2 = due y.2 ∧ x.1 < y.1

inductive Does (due : α → τ) : Mailbox α → Action τ α → Mailbox α → Prop where
  | post {m : Mailbox α} (a : α) :
      Does due m (.post a) ⟨insert (m.posted, a) m.waiting, m.posted + 1⟩
  | cancel {m : Mailbox α} (p : α → Bool) :
      Does due m (.cancel p) { m with waiting := {x ∈ m.waiting | p x.2 = false} }
  | deliver {m : Mailbox α} {now : τ} {x : ℕ × α} :
      x ∈ m.waiting → due x.2 ≤ now → (∀ y ∈ m.waiting, y ≠ x → Before due x y) →
      Does due m (.deliver now x.2) { m with waiting := m.waiting \ {x} }

/-- `a` behind the messages that are due no later. -/
def enqueue (due : α → τ) (a : α) (q : List α) : List α :=
  q.takeWhile (due · ≤ due a) ++ a :: q.dropWhile (due · ≤ due a)

inductive LineDoes (due : α → τ) : List α → Action τ α → List α → Prop where
  | post {q : List α} (a : α) : LineDoes due q (.post a) (enqueue due a q)
  | cancel {q : List α} (p : α → Bool) : LineDoes due q (.cancel p) (q.filter fun a => !p a)
  | deliver {a : α} {q : List α} {now : τ} :
      due a ≤ now → LineDoes due (a :: q) (.deliver now a) q

/-- The list has the waiting messages in the order in which they are to be delivered. -/
def IsLine (due : α → τ) (q : List α) (m : Mailbox α) : Prop :=
  ∃ xs : List (ℕ × α), xs.map Prod.snd = q ∧ xs.Pairwise (Before due) ∧
    (∀ x, x ∈ m.waiting ↔ x ∈ xs) ∧ ∀ x ∈ xs, x.1 < m.posted

theorem isLine_empty : IsLine due [] (empty : Mailbox α) :=
  ⟨[], rfl, .nil, fun x => by simp [empty], nofun⟩

/-! ## Lists in order -/

theorem perm_enqueue (a : α) (q : List α) : (enqueue due a q).Perm (a :: q) := by
  have hmiddle : (enqueue due a q).Perm
      (a :: (q.takeWhile (due · ≤ due a) ++ q.dropWhile (due · ≤ due a))) := List.perm_middle
  rwa [List.takeWhile_append_dropWhile] at hmiddle

/-- Behind the messages that are due no later, the others are due later. -/
theorem lt_of_mem_dropWhile {q : List α} (h : q.Pairwise (due · ≤ due ·)) (t : τ) :
    ∀ b ∈ q.dropWhile (due · ≤ t), t < due b := by
  induction q with
  | nil => exact nofun
  | cons c q ih =>
    obtain ⟨hfirst, hrest⟩ := List.pairwise_cons.mp h
    by_cases hc : due c ≤ t
    · rw [List.dropWhile_cons_of_pos (by simpa using hc)]
      exact ih hrest
    · rw [List.dropWhile_cons_of_neg (by simpa using hc)]
      intro b hb
      rcases List.mem_cons.mp hb with rfl | hb
      · exact not_le.mp hc
      · exact (not_le.mp hc).trans_le (hfirst b hb)

theorem le_of_mem_takeWhile {q : List α} {t : τ} {b : α} (hb : b ∈ q.takeWhile (due · ≤ t)) :
    due b ≤ t := by simpa using List.mem_takeWhile_imp hb

/-- A list in an order that says at least when the messages are due stays so. -/
theorem pairwise_enqueue {R : α → α → Prop} {a : α} {q : List α} (h : q.Pairwise R)
    (hR : ∀ b c, R b c → due b ≤ due c) (hfront : ∀ b ∈ q, due b ≤ due a → R b a)
    (hback : ∀ b ∈ q, due a < due b → R a b) : (enqueue due a q).Pairwise R := by
  have hsplit : q.takeWhile (due · ≤ due a) ++ q.dropWhile (due · ≤ due a) = q :=
    List.takeWhile_append_dropWhile
  have hlater := lt_of_mem_dropWhile (h.imp (hR _ _)) (due a)
  have hparts := h
  rw [← hsplit, List.pairwise_append] at hparts
  obtain ⟨htake, hdrop, hcross⟩ := hparts
  refine List.pairwise_append.mpr ⟨htake, List.pairwise_cons.mpr ⟨?_, hdrop⟩, ?_⟩
  · intro b hb
    exact hback b (List.dropWhile_subset _ hb) (hlater b hb)
  · intro b hb c hc
    rcases List.mem_cons.mp hc with rfl | hc
    · exact hfront b (List.takeWhile_subset _ hb) (le_of_mem_takeWhile hb)
    · exact hcross b hb c hc

theorem LineDoes.sorted {q q' : List α} {act : Action τ α} (h : LineDoes due q act q')
    (hq : q.Pairwise (due · ≤ due ·)) : q'.Pairwise (due · ≤ due ·) := by
  cases h with
  | post a => exact pairwise_enqueue hq (fun _ _ h => h) (fun _ _ h => h) fun _ _ h => h.le
  | cancel p => exact hq.filter _
  | deliver _ => exact (List.pairwise_cons.mp hq).2

/-! ## A line is a mailbox -/

theorem Before.ne {x y : ℕ × α} (h : Before due x y) : x ≠ y := by
  rintro rfl
  rcases h with h | ⟨-, h⟩
  · exact h.false
  · exact h.false

theorem Before.le {x y : ℕ × α} (h : Before due x y) : due x.2 ≤ due y.2 := by
  rcases h with h | ⟨h, -⟩
  · exact h.le
  · exact h.le

theorem IsLine.post {q : List α} {m : Mailbox α} (h : IsLine due q m) (a : α) :
    IsLine due (enqueue due a q) ⟨insert (m.posted, a) m.waiting, m.posted + 1⟩ := by
  obtain ⟨xs, rfl, hsorted, hwaiting, hlt⟩ := h
  refine ⟨enqueue (fun x : ℕ × α => due x.2) (m.posted, a) xs, ?_, ?_, ?_, ?_⟩
  · rw [enqueue, enqueue, List.map_append, List.map_cons, List.takeWhile_map, List.dropWhile_map]
    rfl
  · refine pairwise_enqueue hsorted (fun _ _ => Before.le) ?_ ?_
    · intro b hb hle
      rcases hle.lt_or_eq with hlt' | heq
      · exact .inl hlt'
      · exact .inr ⟨heq, hlt b hb⟩
    · intro b _ hlt'
      exact .inl hlt'
  · intro x
    rw [(perm_enqueue _ xs).mem_iff, List.mem_cons, ← hwaiting]
    exact Iff.rfl
  · intro x hx
    rw [(perm_enqueue _ xs).mem_iff, List.mem_cons] at hx
    rcases hx with rfl | hx
    · exact Nat.lt_succ_self _
    · exact (hlt x hx).trans (Nat.lt_succ_self _)

theorem IsLine.cancel {q : List α} {m : Mailbox α} (h : IsLine due q m) (p : α → Bool) :
    IsLine due (q.filter fun a => !p a)
      { m with waiting := {x ∈ m.waiting | p x.2 = false} } := by
  obtain ⟨xs, rfl, hsorted, hwaiting, hlt⟩ := h
  refine ⟨xs.filter fun x => !p x.2, ?_, hsorted.filter _, ?_, ?_⟩
  · rw [List.filter_map]
    rfl
  · intro x
    simp [hwaiting]
  · intro x hx
    exact hlt x (List.mem_of_mem_filter hx)

theorem IsLine.deliver {a : α} {q : List α} {m : Mailbox α} (h : IsLine due (a :: q) m) :
    ∃ x ∈ m.waiting, x.2 = a ∧ (∀ y ∈ m.waiting, y ≠ x → Before due x y) ∧
      IsLine due q { m with waiting := m.waiting \ {x} } := by
  obtain ⟨xs, hmap, hsorted, hwaiting, hlt⟩ := h
  cases xs with
  | nil => cases hmap
  | cons x xs =>
    rw [List.map_cons, List.cons.injEq] at hmap
    obtain ⟨hfirst, hrest⟩ := List.pairwise_cons.mp hsorted
    refine ⟨x, (hwaiting x).mpr List.mem_cons_self, hmap.1, ?_, xs, hmap.2, hrest, ?_, ?_⟩
    · intro y hy hne
      rcases List.mem_cons.mp ((hwaiting y).mp hy) with rfl | hy
      · exact (hne rfl).elim
      · exact hfirst y hy
    · intro y
      rw [Set.mem_sdiff, hwaiting, List.mem_cons, Set.mem_singleton_iff]
      constructor
      · rintro ⟨rfl | hy, hne⟩
        · exact (hne rfl).elim
        · exact hy
      · intro hy
        exact ⟨.inr hy, (hfirst y hy).ne.symm⟩
    · intro y hy
      exact hlt y (List.mem_cons_of_mem x hy)

theorem IsLine.does {q q' : List α} {m : Mailbox α} {act : Action τ α} (h : IsLine due q m)
    (hq : LineDoes due q act q') : ∃ m', Does due m act m' ∧ IsLine due q' m' := by
  cases hq with
  | post a => exact ⟨_, .post a, h.post a⟩
  | cancel p => exact ⟨_, .cancel p, h.cancel p⟩
  | deliver hdue =>
    obtain ⟨x, hx, rfl, hfirst, hline⟩ := h.deliver
    exact ⟨_, .deliver hx hdue hfirst, hline⟩

/-- A list that starts empty is a mailbox all along. -/
theorem line_is_mailbox {q : List α} {acts : List (Action τ α)}
    (h : Path (LineDoes due) [] acts q) :
    ∃ m, Path (Does due) empty acts m ∧ IsLine due q m :=
  h.simulated (fun _ _ _ _ hline hq => hline.does hq) isLine_empty

/-! ## What becomes of the messages -/

def Action.posted? : Action τ α → Option α
  | .post a => some a
  | _ => none

def Action.delivered? : Action τ α → Option α
  | .deliver _ a => some a
  | _ => none

/-- No message with this value is taken away. -/
def Uncancelled (acts : List (Action τ α)) (a : α) : Prop := ∀ p, .cancel p ∈ acts → p a = false

/-- What waits or has been delivered has been posted as often, and what is never cancelled waits or
has been delivered as often as it has been posted. -/
theorem counts [DecidableEq α] {q q' : List α} {acts : List (Action τ α)}
    (h : Path (LineDoes due) q acts q') (a : α) :
    q'.count a + (acts.filterMap Action.delivered?).count a ≤
        q.count a + (acts.filterMap Action.posted?).count a ∧
      (Uncancelled acts a → q'.count a + (acts.filterMap Action.delivered?).count a =
        q.count a + (acts.filterMap Action.posted?).count a) := by
  induction h with
  | refl => exact ⟨le_rfl, fun _ => rfl⟩
  | @cons q q₁ q' act acts hact _ ih =>
    obtain ⟨hle, heq⟩ := ih
    have hlater : Uncancelled (act :: acts) a → Uncancelled acts a := by
      intro hun p hp
      exact hun p (List.mem_cons_of_mem act hp)
    cases hact with
    | post b =>
      have hq : (enqueue due b q).count a = (b :: q).count a := (perm_enqueue b q).count_eq a
      rw [hq, List.count_cons] at hle heq
      simp only [List.filterMap_cons, Action.posted?, Action.delivered?, List.count_cons]
      exact ⟨by omega, fun hun => by have := heq (hlater hun); omega⟩
    | cancel p =>
      have hq : (q.filter fun b => !p b).count a ≤ q.count a :=
        List.filter_sublist.count_le a
      simp only [List.filterMap_cons, Action.posted?, Action.delivered?]
      refine ⟨by omega, fun hun => ?_⟩
      have hp : p a = false := hun p List.mem_cons_self
      rw [heq (hlater hun), List.count_filter (by simp [hp])]
    | @deliver b q now _ =>
      simp only [List.filterMap_cons, Action.posted?, Action.delivered?, List.count_cons]
      exact ⟨by omega, fun hun => by have := heq (hlater hun); omega⟩

end Mailbox
end Huashan
