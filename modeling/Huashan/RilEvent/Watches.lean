import Huashan.RilEvent.Event

/-!
# Huashan.RilEvent.Watches

The invariant of the watch table (`Watching`): the set of descriptors for `select`, its bound and
the indices in the events are those of the table. `ril_event_set`, `ril_event_add`, `ril_event_del`
and `processReadReadies` keep it, and an event that is deleted, or fired while it is not persistent,
is gone from all of them.
-/

namespace Huashan
namespace RilEvent

namespace State

variable {β : Type} [DecidableEq β] {s : State β}

/-! ## `removeWatch` -/

omit [DecidableEq β] in
/-- The loop of `removeWatch` over some of the slots. -/
theorem le_foldl_largestFd (is : List (Fin maxFdEvents)) : ∀ n : Int,
    n ≤ is.foldl (fun n i =>
      match s.watchTable i with
      | some rev => if s.fd rev > n then s.fd rev else n
      | none => n) n ∧
    ∀ i ∈ is, ∀ ev, s.watchTable i = some ev → s.fd ev ≤ is.foldl (fun n i =>
      match s.watchTable i with
      | some rev => if s.fd rev > n then s.fd rev else n
      | none => n) n := by
  induction is with
  | nil => exact fun n => ⟨le_refl n, nofun⟩
  | cons j is ih =>
    intro n
    rw [List.foldl_cons]
    cases hj : s.watchTable j with
    | none =>
      obtain ⟨hn, his⟩ := ih n
      refine ⟨hn, fun i hi ev hev => ?_⟩
      rcases List.mem_cons.mp hi with rfl | hi
      · rw [hj] at hev
        cases hev
      · exact his i hi ev hev
    | some rev =>
      obtain ⟨hn, his⟩ := ih (if s.fd rev > n then s.fd rev else n)
      have hmax : n ≤ (if s.fd rev > n then s.fd rev else n) ∧
          s.fd rev ≤ (if s.fd rev > n then s.fd rev else n) := by
        split <;> omega
      refine ⟨hmax.1.trans hn, fun i hi ev hev => ?_⟩
      rcases List.mem_cons.mp hi with rfl | hi
      · rw [hj] at hev
        cases hev
        exact hmax.2.trans hn
      · exact his i hi ev hev

omit [DecidableEq β] in
theorem le_largestFd {i : Fin maxFdEvents} {ev : Node β} (h : s.watchTable i = some ev) :
    s.fd ev ≤ s.largestFd :=
  (le_foldl_largestFd (List.finRange maxFdEvents) 0).2 i (List.mem_finRange i) ev h

/-- `ev` out of the slot `i`, with the bound `n`. -/
def unwatched (s : State β) (ev : Node β) (i : Fin maxFdEvents) (n : Int) : State β :=
  { s with
    watchTable := Function.update s.watchTable i none
    index := Function.update s.index ev (-1)
    readFds := s.readFds.erase (s.fd ev)
    nfds := n }

theorem unwatched_watchTable {ev rev : Node β} {i j : Fin maxFdEvents} {n : Int} :
    (s.unwatched ev i n).watchTable j = some rev ↔ j ≠ i ∧ s.watchTable j = some rev := by
  by_cases hji : j = i
  · simp [unwatched, hji]
  · simp [unwatched, hji]

/-- A bound above the descriptors stays one for those that are left. -/
theorem removeWatch_spec (s : State β) (ev : Node β) (i : Fin maxFdEvents) :
    ∃ n, s.removeWatch ev i = s.unwatched ev i n ∧
      ((∀ j rev, s.watchTable j = some rev → s.fd rev < s.nfds) →
        ∀ j rev, (s.unwatched ev i n).watchTable j = some rev → s.fd rev < n) := by
  by_cases hlargest : s.fd ev + 1 = s.nfds
  · refine ⟨(s.unwatched ev i s.nfds).largestFd + 1, if_pos hlargest, fun _ j rev hj => ?_⟩
    exact Int.lt_add_one_of_le (le_largestFd (s := s.unwatched ev i s.nfds) hj)
  · refine ⟨s.nfds, if_neg hlargest, fun hbound j rev hj => ?_⟩
    exact hbound j rev (unwatched_watchTable.mp hj).2

/-! ## The invariant -/

/-- `known` are the events after `ril_event_set`. -/
structure Watching (s : State β) (known : Finset β) : Prop where
  watched : ∀ i ev, s.watchTable i = some ev → ∃ e ∈ known, ev = .event e
  slot : ∀ e ∈ known, ∀ i : Fin maxFdEvents,
    s.watchTable i = some (.event e) ↔ s.index (.event e) = i.val
  index_lt : ∀ e ∈ known, s.index (.event e) < maxFdEvents
  fds : ∀ fd, fd ∈ s.readFds ↔ ∃ i ev, s.watchTable i = some ev ∧ s.fd ev = fd
  bound : ∀ i ev, s.watchTable i = some ev → s.fd ev < s.nfds
  distinct : ∀ i ev j ev', s.watchTable i = some ev → s.watchTable j = some ev' →
    s.fd ev = s.fd ev' → i = j
  tail : s.links.prev .pendingList ≠ none

/-- The descriptor of `ev` is neither in the table nor in the set. -/
def Gone (s : State β) (ev : Node β) : Prop :=
  s.fd ev ∉ s.readFds ∧ ∀ i rev, s.watchTable i = some rev → s.fd rev ≠ s.fd ev

variable {known : Finset β} {e : β}

/-- A watched event is removed from its slot. -/
theorem Watching.removeWatch (h : s.Watching known) {i : Fin maxFdEvents} (he : e ∈ known)
    (hi : s.watchTable i = some (.event e)) :
    (s.removeWatch (.event e) i).Watching known ∧ (s.removeWatch (.event e) i).Gone (.event e) := by
  obtain ⟨n, hremove, hbound⟩ := removeWatch_spec s (.event e) i
  have hne : ∀ j rev, j ≠ i → s.watchTable j = some rev → s.fd rev ≠ s.fd (.event e) :=
    fun j rev hji hj hfd => hji (h.distinct j rev i (.event e) hj hi hfd)
  rw [hremove]
  refine ⟨⟨fun j rev hj => ?_, fun e' he' j => ?_, fun e' he' => ?_, fun fd => ?_,
    hbound h.bound, ?_, h.tail⟩, fun hmem => ?_, fun j rev hj => ?_⟩
  · exact h.watched j rev (unwatched_watchTable.mp hj).2
  · rw [unwatched_watchTable]
    have hslot := h.slot e' he' j
    by_cases heq : e' = e
    · subst heq
      have hindex : (s.unwatched (.event e') i n).index (.event e') = -1 := Function.update_self ..
      have hslot' := (h.slot e' he' i).mp hi
      rw [hindex, hslot, hslot']
      omega
    · have hindex : (s.unwatched (.event e) i n).index (.event e') = s.index (.event e') :=
        Function.update_of_ne (fun hev => heq (Node.event.inj hev)) _ _
      have hji : s.watchTable j = some (.event e') → j ≠ i := by
        rintro hj rfl
        rw [hi] at hj
        exact heq (Node.event.inj (Option.some.inj hj)).symm
      rw [hindex, ← hslot]
      exact ⟨fun hj => hj.2, fun hj => ⟨hji hj, hj⟩⟩
  · change Function.update s.index (.event e) (-1) (.event e') < maxFdEvents
    rw [Function.update_apply]
    split
    · decide
    · exact h.index_lt e' he'
  · change fd ∈ s.readFds.erase (s.fd (.event e)) ↔ _
    rw [Finset.mem_erase, h.fds]
    constructor
    · rintro ⟨hfd, j, rev, hj, hrev⟩
      refine ⟨j, rev, unwatched_watchTable.mpr ⟨?_, hj⟩, hrev⟩
      rintro rfl
      rw [hi] at hj
      cases hj
      exact hfd hrev.symm
    · rintro ⟨j, rev, hj, hrev⟩
      obtain ⟨hji, hj⟩ := unwatched_watchTable.mp hj
      exact ⟨fun hfd => hne j rev hji hj (hrev.trans hfd), j, rev, hj, hrev⟩
  · intro j rev j' rev' hj hj'
    exact h.distinct j rev j' rev' (unwatched_watchTable.mp hj).2 (unwatched_watchTable.mp hj').2
  · exact absurd rfl (Finset.ne_of_mem_erase hmem)
  · obtain ⟨hji, hj⟩ := unwatched_watchTable.mp hj
    exact hne j rev hji hj

/-- The descriptor of an event that is not watched may be that of another one. -/
theorem Watching.rilEventDel (h : s.Watching known) (he : e ∈ known) :
    (s.rilEventDel (.event e)).Watching known ∧
      ((∀ i rev, s.watchTable i = some rev → rev ≠ .event e → s.fd rev ≠ s.fd (.event e)) →
        (s.rilEventDel (.event e)).Gone (.event e)) := by
  by_cases hout : s.index (.event e) < 0 ∨ s.index (.event e) ≥ maxFdEvents
  · have hdel : s.rilEventDel (.event e) = s := dif_pos hout
    rw [hdel]
    refine ⟨h, fun hfd => ?_⟩
    have hunwatched : ∀ i rev, s.watchTable i = some rev → s.fd rev ≠ s.fd (.event e) := by
      intro i rev hi
      refine hfd i rev hi ?_
      rintro rfl
      have hindex := (h.slot e he i).mp hi
      omega
    refine ⟨fun hmem => ?_, hunwatched⟩
    obtain ⟨i, rev, hi, hrev⟩ := (h.fds _).mp hmem
    exact hunwatched i rev hi hrev
  · have hin : (s.index (.event e)).toNat < maxFdEvents := by omega
    have hdel : s.rilEventDel (.event e) = s.removeWatch (.event e) ⟨_, hin⟩ := dif_neg hout
    have hindex : s.index (.event e) = (s.index (.event e)).toNat := by omega
    rw [hdel]
    obtain ⟨hwatching, hgone⟩ := h.removeWatch he ((h.slot e he ⟨_, hin⟩).mpr hindex)
    exact ⟨hwatching, fun _ => hgone⟩

/-- `ev` in the slot `i`. -/
def watchedAt (s : State β) (ev : Node β) (i : Fin maxFdEvents) : State β :=
  { s with
    watchTable := Function.update s.watchTable i (some ev)
    index := Function.update s.index ev i.val
    readFds := insert (s.fd ev) s.readFds
    nfds := if s.fd ev ≥ s.nfds then s.fd ev + 1 else s.nfds }

theorem watchedAt_watchTable {ev rev : Node β} {i j : Fin maxFdEvents}
    (hi : s.watchTable i = none) :
    (s.watchedAt ev i).watchTable j = some rev ↔
      (j = i ∧ rev = ev) ∨ s.watchTable j = some rev := by
  by_cases hji : j = i
  · subst hji
    simp [watchedAt, hi, eq_comm]
  · simp [watchedAt, hji]

theorem rilEventAdd_cases (s : State β) (ev : Node β) :
    s.rilEventAdd ev = s ∨ ∃ i, s.watchTable i = none ∧ s.rilEventAdd ev = s.watchedAt ev i := by
  unfold State.rilEventAdd
  split
  · exact .inl rfl
  · rename_i i hfree
    exact .inr ⟨i, by simpa using List.find?_some hfree, rfl⟩

/-- An event that is not watched takes a free slot, if there is one. -/
theorem Watching.rilEventAdd (h : s.Watching known) (he : e ∈ known)
    (hnew : ∀ i rev, s.watchTable i = some rev → rev ≠ .event e ∧ s.fd rev ≠ s.fd (.event e)) :
    (s.rilEventAdd (.event e)).Watching known := by
  rcases rilEventAdd_cases s (.event e) with hfull | ⟨i, hi, hadd⟩
  · rw [hfull]
    exact h
  have htable : ∀ j rev, (s.watchedAt (.event e) i).watchTable j = some rev ↔
      (j = i ∧ rev = .event e) ∨ s.watchTable j = some rev :=
    fun _ _ => watchedAt_watchTable hi
  rw [hadd]
  refine ⟨fun j rev hj => ?_, fun e' he' j => ?_, fun e' he' => ?_, fun fd => ?_,
    fun j rev hj => ?_, fun j rev j' rev' hj hj' hfd => ?_, h.tail⟩
  · rcases (htable j rev).mp hj with ⟨_, rfl⟩ | hj
    · exact ⟨e, he, rfl⟩
    · exact h.watched j rev hj
  · rw [htable]
    by_cases heq : e' = e
    · subst heq
      have hindex : (s.watchedAt (.event e') i).index (.event e') = i.val :=
        Function.update_self ..
      have hfree : s.watchTable j ≠ some (.event e') := fun hj => (hnew j _ hj).1 rfl
      rw [hindex, Nat.cast_inj, ← Fin.ext_iff]
      exact ⟨fun hj => (hj.resolve_right hfree).1.symm, fun hj => .inl ⟨hj.symm, rfl⟩⟩
    · have hev : Node.event e' ≠ .event e := fun hev => heq (Node.event.inj hev)
      have hindex : (s.watchedAt (.event e) i).index (.event e') = s.index (.event e') :=
        Function.update_of_ne hev _ _
      rw [hindex, ← h.slot e' he' j]
      exact ⟨fun hj => hj.resolve_left fun hj => hev hj.2, .inr⟩
  · change Function.update s.index (.event e) i.val (.event e') < maxFdEvents
    rw [Function.update_apply]
    split
    · exact_mod_cast i.isLt
    · exact h.index_lt e' he'
  · change fd ∈ insert (s.fd (.event e)) s.readFds ↔ _
    rw [Finset.mem_insert, h.fds]
    constructor
    · rintro (rfl | ⟨j, rev, hj, hrev⟩)
      · exact ⟨i, .event e, (htable i _).mpr (.inl ⟨rfl, rfl⟩), rfl⟩
      · exact ⟨j, rev, (htable j rev).mpr (.inr hj), hrev⟩
    · rintro ⟨j, rev, hj, hrev⟩
      rcases (htable j rev).mp hj with ⟨_, rfl⟩ | hj
      · exact .inl hrev.symm
      · exact .inr ⟨j, rev, hj, hrev⟩
  · have hmax : s.fd (.event e) < (s.watchedAt (.event e) i).nfds ∧
        s.nfds ≤ (s.watchedAt (.event e) i).nfds := by
      simp only [watchedAt]
      split <;> omega
    rcases (htable j rev).mp hj with ⟨_, rfl⟩ | hj
    · exact hmax.1
    · exact (h.bound j rev hj).trans_le hmax.2
  · rcases (htable j rev).mp hj with ⟨hji, hrev⟩ | hold
    · rcases (htable j' rev').mp hj' with ⟨hji', _⟩ | hold'
      · exact hji.trans hji'.symm
      · rw [hrev] at hfd
        exact absurd hfd.symm (hnew j' rev' hold').2
    · rcases (htable j' rev').mp hj' with ⟨_, hrev'⟩ | hold'
      · rw [hrev'] at hfd
        exact absurd hfd (hnew j rev hold).2
      · exact h.distinct j rev j' rev' hold hold' hfd

/-- An event that is not watched is set up again, for another descriptor perhaps. -/
theorem Watching.rilEventSet (h : s.Watching known) (fd : Int) (persist : Bool)
    (hnew : ∀ i, s.watchTable i ≠ some (.event e)) :
    (s.rilEventSet (.event e) fd persist).Watching (insert e known) := by
  have hfd : ∀ i rev, s.watchTable i = some rev →
      (s.rilEventSet (.event e) fd persist).fd rev = s.fd rev := by
    intro i rev hi
    have hne : rev ≠ .event e := by
      rintro rfl
      exact hnew i hi
    simp [State.rilEventSet, clear, hne]
  have hindex : ∀ e', (s.rilEventSet (.event e) fd persist).index (.event e') =
      if e' = e then -1 else s.index (.event e') := by
    intro e'
    simp [State.rilEventSet, clear, Function.update_apply]
  refine ⟨fun i ev hi => ?_, fun e' he' i => ?_, fun e' he' => ?_, fun fd' => ?_,
    fun i rev hi => ?_, fun i rev j rev' hi hj hrev => ?_, ?_⟩
  · obtain ⟨e', he', hev⟩ := h.watched i ev hi
    exact ⟨e', Finset.mem_insert_of_mem he', hev⟩
  · rw [hindex]
    split
    · rename_i heq
      subst heq
      exact ⟨fun hi => absurd hi (hnew i), fun hi => by omega⟩
    · rename_i heq
      exact h.slot e' (Finset.mem_of_mem_insert_of_ne he' heq) i
  · rw [hindex]
    split
    · decide
    · rename_i heq
      exact h.index_lt e' (Finset.mem_of_mem_insert_of_ne he' heq)
  · refine (h.fds fd').trans (exists_congr fun i => exists_congr fun rev => ?_)
    exact and_congr_right fun hi => by rw [hfd i rev hi]
  · rw [hfd i rev hi]
    exact h.bound i rev hi
  · rw [hfd i rev hi, hfd j rev' hj] at hrev
    exact h.distinct i rev j rev' hi hj hrev
  · have hprev : (s.rilEventSet (.event e) fd persist).links.prev .pendingList =
        s.links.prev .pendingList := by
      simp [State.rilEventSet, clear, Links.setNext, Links.setPrev]
    rw [hprev]
    exact h.tail

/-! ## `processReadReadies` -/

theorem Gone.removeWatch {ev rev : Node β} (h : s.Gone ev) (i : Fin maxFdEvents) :
    (s.removeWatch rev i).Gone ev := by
  obtain ⟨n, hremove, _⟩ := removeWatch_spec s rev i
  rw [hremove]
  exact ⟨fun hmem => h.1 (Finset.mem_of_mem_erase hmem),
    fun j rev' hj => h.2 j rev' (unwatched_watchTable.mp hj).2⟩

/-- The loop of `processReadReadies` after some of its turns; `fired` has been put on the pending
list. -/
structure Reading (s₀ s : State β) (known : Finset β) (fired : List (Node β)) : Prop where
  watching : s.Watching known
  fd : s.fd = s₀.fd
  persist : s.persist = s₀.persist
  gone : ∀ ev ∈ fired, s.persist ev = false → s.Gone ev

omit [DecidableEq β] in
/-- An event that stays in its slot. -/
theorem Reading.fire {s₀ : State β} {fired : List (Node β)} (h : Reading s₀ s known fired)
    {ev : Node β} (hev : s.persist ev = true) : Reading s₀ s known (fired ++ [ev]) where
  watching := h.watching
  fd := h.fd
  persist := h.persist
  gone := fun ev' hev' hpersist => by
    rcases List.mem_append.mp hev' with hev' | hev'
    · exact h.gone ev' hev' hpersist
    · rw [List.mem_singleton.mp hev', hev] at hpersist
      cases hpersist

/-- An event that leaves its slot. -/
theorem Reading.fireOnce {s₀ : State β} {fired : List (Node β)} (h : Reading s₀ s known fired)
    {i : Fin maxFdEvents} (he : e ∈ known) (hi : s.watchTable i = some (.event e)) :
    Reading s₀ (s.removeWatch (.event e) i) known (fired ++ [.event e]) := by
  obtain ⟨n, hremove, _⟩ := removeWatch_spec s (.event e) i
  obtain ⟨hwatching, hgone⟩ := h.watching.removeWatch he hi
  refine ⟨hwatching, ?_, ?_, fun ev hev hpersist => ?_⟩
  · rw [hremove]
    exact h.fd
  · rw [hremove]
    exact h.persist
  · rcases List.mem_append.mp hev with hev | hev
    · rw [hremove] at hpersist
      exact (h.gone ev hev hpersist).removeWatch i
    · rw [List.mem_singleton.mp hev]
      exact hgone

/-- An event is put behind the last node of the pending list. -/
theorem Reading.addToList {s₀ : State β} {fired : List (Node β)} (h : Reading s₀ s known fired)
    (ev : Node β) : ∃ links, s.addToList ev .pendingList = some { s with links := links } ∧
      Reading s₀ { s with links := links } known fired := by
  obtain ⟨p, hp⟩ := Option.ne_none_iff_exists'.mp h.watching.tail
  have hw := h.watching
  refine ⟨s.links.spliced p ev .pendingList, ?_, ⟨hw.watched, hw.slot, hw.index_lt, hw.fds,
    hw.bound, hw.distinct, ?_⟩, h.fd, h.persist, h.gone⟩
  · rw [State.addToList, Links.insertBefore_eq hp]
    rfl
  · simp [Links.spliced]

/-- The watched events in some of the slots whose descriptors are ready. -/
def ready (s : State β) (rfds : Int → Bool) (is : List (Fin maxFdEvents)) : List (Node β) :=
  (is.filterMap s.watchTable).filter fun ev => rfds (s.fd ev)

omit [DecidableEq β] in
theorem ready_none {rfds : Int → Bool} {i : Fin maxFdEvents} (hi : s.watchTable i = none)
    (is : List (Fin maxFdEvents)) : s.ready rfds (i :: is) = s.ready rfds is := by
  rw [ready, List.filterMap_cons_none hi, ready]

omit [DecidableEq β] in
theorem ready_some {rfds : Int → Bool} {i : Fin maxFdEvents} {rev : Node β}
    (hi : s.watchTable i = some rev) (is : List (Fin maxFdEvents)) :
    s.ready rfds (i :: is) =
      if rfds (s.fd rev) then rev :: s.ready rfds is else s.ready rfds is := by
  rw [ready, List.filterMap_cons_some hi, List.filter_cons, ready]

/-- A turn of the loop of `processReadReadies` that does nothing. -/
theorem readReady_idle {rfds : Int → Bool} {n : Int} {i : Fin maxFdEvents}
    (h : ∀ rev, s.watchTable i = some rev → ¬ (n > 0 ∧ rfds (s.fd rev))) (fired : List (Node β)) :
    readReady rfds (s, n, fired) i = some (s, n, fired) := by
  cases hi : s.watchTable i with
  | none => simp only [readReady, hi]
  | some rev => simp only [readReady, hi, if_neg (h rev hi)]

/-- A turn of the loop of `processReadReadies` that fires an event. -/
theorem Reading.readReady {s₀ : State β} {fired : List (Node β)} (h : Reading s₀ s known fired)
    {rfds : Int → Bool} {n : Int} {i : Fin maxFdEvents} {rev : Node β}
    (hi : s.watchTable i = some rev) (hready : n > 0 ∧ rfds (s.fd rev)) :
    ∃ s', State.readReady rfds (s, n, fired) i = some (s', n - 1, fired ++ [rev]) ∧
      Reading s₀ s' known (fired ++ [rev]) ∧ ∀ j, j ≠ i → s'.watchTable j = s.watchTable j := by
  obtain ⟨links, hadd, h'⟩ := h.addToList rev
  obtain ⟨e, he, rfl⟩ := h.watching.watched i rev hi
  cases hpersist : s.persist (.event e) with
  | true =>
    refine ⟨{ s with links := links }, ?_, h'.fire hpersist, fun _ _ => rfl⟩
    simp [State.readReady, hi, hready, hadd, hpersist]
  | false =>
    refine ⟨_, ?_, h'.fireOnce he hi, fun j hj => ?_⟩
    · simp [State.readReady, hi, hready, hadd, hpersist]
    · obtain ⟨m, hremove, _⟩ := removeWatch_spec { s with links := links } (.event e) i
      rw [hremove]
      exact Function.update_of_ne hj _ _

/-- The loop of `processReadReadies` over some of the slots. -/
theorem Reading.foldlM {s₀ : State β} (rfds : Int → Bool) {is : List (Fin maxFdEvents)}
    (hnodup : is.Nodup) {s : State β} {n : Int} {fired : List (Node β)}
    (h : Reading s₀ s known fired) :
    ∃ s' n', is.foldlM (State.readReady rfds) (s, n, fired) =
        some (s', n', fired ++ (s.ready rfds is).take n.toNat) ∧
      Reading s₀ s' known (fired ++ (s.ready rfds is).take n.toNat) := by
  induction is generalizing s n fired with
  | nil => exact ⟨s, n, by simp [ready], by simpa [ready] using h⟩
  | cons i is ih =>
    rw [List.nodup_cons] at hnodup
    by_cases hturn : ∃ rev, s.watchTable i = some rev ∧ n > 0 ∧ rfds (s.fd rev)
    · obtain ⟨rev, hi, hready⟩ := hturn
      obtain ⟨s₁, hfire, h₁, htable⟩ := h.readReady hi hready
      obtain ⟨s', n', hrun, h'⟩ := ih hnodup.2 (n := n - 1) h₁
      have hrest : s₁.ready rfds is = s.ready rfds is := by
        have hmap : is.filterMap s₁.watchTable = is.filterMap s.watchTable :=
          List.filterMap_congr fun j hj => htable j fun he => hnodup.1 (he ▸ hj)
        rw [ready, hmap, h₁.fd, ← h.fd]
        rfl
      have htake : (s.ready rfds (i :: is)).take n.toNat =
          rev :: (s.ready rfds is).take (n - 1).toNat := by
        have hn : n.toNat = (n - 1).toNat + 1 := by omega
        rw [ready_some hi, if_pos hready.2, hn, List.take_succ_cons]
      have hresult : fired ++ (s.ready rfds (i :: is)).take n.toNat =
          fired ++ [rev] ++ (s₁.ready rfds is).take (n - 1).toNat := by
        rw [htake, hrest, List.append_cons]
      refine ⟨s', n', ?_, ?_⟩
      · rw [List.foldlM_cons, hfire, hresult]
        exact hrun
      · rw [hresult]
        exact h'
    · have hidle := readReady_idle (fun rev hi hready => hturn ⟨rev, hi, hready⟩) fired
      obtain ⟨s', n', hrun, h'⟩ := ih hnodup.2 (n := n) h
      have htake : (s.ready rfds (i :: is)).take n.toNat = (s.ready rfds is).take n.toNat := by
        cases hi : s.watchTable i with
        | none => rw [ready_none hi]
        | some rev =>
          by_cases hn : n > 0
          · have hnot : ¬ rfds (s.fd rev) := fun hready => hturn ⟨rev, hi, hn, hready⟩
            rw [ready_some hi, if_neg hnot]
          · rw [Int.toNat_of_nonpos (by omega), List.take_zero, List.take_zero]
      refine ⟨s', n', ?_, ?_⟩
      · rw [List.foldlM_cons, hidle, htake]
        exact hrun
      · rw [htake]
        exact h'

/-- The first `n` of the ready events are put on the pending list, and those of them that are not
persistent are gone from the watches. -/
theorem Watching.processReadReadies (h : s.Watching known) (rfds : Int → Bool) (n : Int) :
    ∃ s', s.processReadReadies rfds n =
        some (s', (s.ready rfds (List.finRange maxFdEvents)).take n.toNat) ∧
      Reading s s' known ((s.ready rfds (List.finRange maxFdEvents)).take n.toNat) := by
  have hstart : Reading s s known [] := ⟨h, rfl, rfl, nofun⟩
  obtain ⟨s', n', hrun, hend⟩ := hstart.foldlM rfds (List.nodup_finRange maxFdEvents) (n := n)
  refine ⟨s', ?_, hend⟩
  rw [State.processReadReadies, hrun]
  rfl

end State
end RilEvent
end Huashan
