import Huashan.RilEvent.Loop
import Huashan.RilEvent.Watches

/-!
# Huashan.RilEvent.LoopRuns

Runs of the event loop with the threads that request timed callbacks. Each callback is called once,
after its time, and its `UserCallbackInfo` stays allocated as long as a list leads to it
(`callbacks_called_once`). The loop does not sleep past the time of a request (`not_slept_past`).
-/

namespace Huashan
namespace RilEvent

/-! ## Times -/

namespace Timeval

variable {a b : Timeval}

theorem Valid.timeradd (ha : a.Valid) (hb : b.Valid) : (timeradd a b).Valid := by
  unfold Valid at ha hb ⊢
  unfold RilEvent.timeradd
  dsimp only
  split <;> dsimp only <;> omega

/-- What `timersub` returns is the time that is left. -/
theorem timeradd_timersub (ha : a.Valid) (b : Timeval) :
    RilEvent.timeradd b (timersub a b) = a := by
  unfold Valid at ha
  obtain ⟨sec, usec⟩ := a
  unfold timersub
  dsimp only at ha ⊢
  split
  · unfold RilEvent.timeradd
    dsimp only
    rw [if_pos (by omega), Timeval.mk.injEq]
    omega
  · unfold RilEvent.timeradd
    dsimp only
    rw [if_neg (by omega), Timeval.mk.injEq]
    omega

theorem timeradd_zero (ha : a.Valid) : RilEvent.timeradd a ⟨0, 0⟩ = a := by
  unfold Valid at ha
  unfold RilEvent.timeradd
  dsimp only
  rw [if_neg (by omega)]
  simp

theorem Valid.le_timeradd (ha : a.Valid) (now : Timeval) : now ≤ RilEvent.timeradd now a := by
  refine RilEvent.le_timeradd now ?_
  unfold Valid at ha
  rw [Timeval.le_iff]
  dsimp only
  omega

end Timeval

/-! ## The functions on the lists and the watch table -/

namespace State

section Frames

variable {β : Type} {s s' : State β}

/-- Everything but the lists is the same. -/
def SameButLinks (s s' : State β) : Prop := s' = { s with links := s'.links }

theorem SameButLinks.trans {s'' : State β} (h : s.SameButLinks s') (h' : s'.SameButLinks s'') :
    s.SameButLinks s'' := by
  unfold SameButLinks at *
  rw [h', h]

variable [DecidableEq β]

theorem addToList_same {ev list : Node β} (h : s.addToList ev list = some s') :
    s.SameButLinks s' := by
  obtain ⟨links, -, rfl⟩ := Option.map_eq_some_iff.mp h
  rfl

theorem removeFromList_same {ev : Node β} (h : s.removeFromList ev = some s') :
    s.SameButLinks s' := by
  obtain ⟨links, -, rfl⟩ := Option.map_eq_some_iff.mp h
  rfl

theorem expireFrom_same (now : Timeval) (fuel : Nat) : ∀ (s : State β) (tev : Node β)
    {s' : State β} {expired : List (Node β)},
    expireFrom now fuel s tev = some (s', expired) → s.SameButLinks s' := by
  induction fuel with
  | zero => intro s tev s' expired h; cases h
  | succ fuel ih =>
    intro s tev s' expired h
    unfold expireFrom at h
    split at h
    · simp only [Option.bind_eq_bind, Option.bind_eq_some_iff] at h
      obtain ⟨next, -, s₁, hremove, s₂, hadd, ⟨s₃, expired'⟩, hrest, hpure⟩ := h
      cases hpure
      exact (removeFromList_same hremove).trans ((addToList_same hadd).trans (ih s₂ next hrest))
    · cases h
      rfl

theorem processTimeouts_same {now : Timeval} {fuel : Nat} {expired : List (Node β)}
    (h : s.processTimeouts now fuel = some (s', expired)) : s.SameButLinks s' := by
  unfold processTimeouts at h
  simp only [Option.bind_eq_bind, Option.bind_eq_some_iff] at h
  obtain ⟨tev, -, hexpire⟩ := h
  exact expireFrom_same now fuel s tev hexpire

theorem fire_same {ev next : Node β} (h : s.fire ev = some (s', next)) : s.SameButLinks s' := by
  unfold fire at h
  simp only [Option.bind_eq_bind, Option.bind_eq_some_iff] at h
  obtain ⟨n, -, s₁, hremove, hpure⟩ := h
  cases hpure
  exact removeFromList_same hremove

/-- An event in no list is set up. -/
theorem Holds.rilEventSet {ts ps : List (Timer β)} {e : β} (h : s.Holds ts ps)
    (he : e ∉ (ts ++ ps).map Timer.event) (fd : Int) (persist : Bool) :
    (s.rilEventSet (.event e) fd persist).Holds ts ps := by
  have hagree : s.links.AgreeOff (s.rilEventSet (.event e) fd persist).links [.event e] := by
    intro c hc
    have hne : c ≠ .event e := fun heq => hc (by simp [heq])
    simp [State.rilEventSet, clear, Links.setNext, Links.setPrev, hne]
  have hoff : ∀ (list : Node β) (us : List (Timer β)), list ≠ .event e →
      e ∉ us.map Timer.event → ∀ c ∈ list :: us.map Timer.node, c ∉ [Node.event e] := by
    intro list us hlist hus c hc hmem
    rw [List.mem_singleton] at hmem
    subst hmem
    exact event_notMem hlist hus hc
  rw [List.map_append, List.mem_append, not_or] at he
  have htimer : Node.timerList ≠ .event e := by
    intro heq
    cases heq
  have hpending : Node.pendingList ≠ .event e := by
    intro heq
    cases heq
  refine ⟨hagree.isRing h.timers (hoff _ _ htimer he.1),
    hagree.isRing h.pending (hoff _ _ hpending he.2), fun t ht => ?_, h.distinct⟩
  have hne : t.node ≠ .event e := by
    intro hev
    have hte := Node.event.inj hev
    rcases List.mem_append.mp ht with ht | ht
    · exact he.1 (hte ▸ List.mem_map_of_mem ht)
    · exact he.2 (hte ▸ List.mem_map_of_mem ht)
  rw [← h.timeouts t ht]
  exact Function.update_of_ne hne _ _

end Frames

/-! ## The event of the pipe -/

variable {s s' : State Source} {ts ps : List (Timer Source)} {fd : Int}

def firstSlot : Fin maxFdEvents := ⟨0, by decide⟩

/-- What decides which descriptors are watched. -/
def watches (s : State Source) :
    (Fin maxFdEvents → Option (Node Source)) × Finset Int × Int × Int × Bool :=
  (s.watchTable, s.readFds, s.nfds, s.fd (.event .wakeupfd), s.persist (.event .wakeupfd))

theorem SameButLinks.watches_eq (h : s.SameButLinks s') : s'.watches = s.watches := by
  rw [h]
  rfl

/-- Nothing is watched, or only the pipe. -/
def Watches (s : State Source) : Option Int → Prop
  | none => s.watchTable = (fun _ => none) ∧ s.readFds = ∅ ∧ s.nfds = 0
  | some fd =>
    s.watches = (Function.update (fun _ => none) firstSlot (some (.event .wakeupfd)), {fd}, fd + 1,
      fd, true)

theorem Watches.congr {fd : Option Int} (h : s.Watches fd) (hs : s'.watches = s.watches) :
    s'.Watches fd := by
  cases fd with
  | none =>
    unfold watches at hs
    simp only [Prod.mk.injEq] at hs
    obtain ⟨htable, hfds, hnfds, -, -⟩ := hs
    exact ⟨htable.trans h.1, hfds.trans h.2.1, hnfds.trans h.2.2⟩
  | some n => exact hs.trans h

theorem rilEventSet_watches (p : Nat) (n : Int) (persist : Bool) :
    (s.rilEventSet (.event (.user p)) n persist).watches = s.watches := by
  simp [watches, State.rilEventSet, clear]

theorem rilTimerAdd_watches {p : Nat} {tv : Option Timeval} {now : Timeval} {fuel : Nat}
    (h : s.rilTimerAdd (.event (.user p)) tv now fuel = some s') : s'.watches = s.watches := by
  cases tv with
  | none =>
    cases h
    rfl
  | some tv =>
    unfold rilTimerAdd at h
    simp only [Option.bind_eq_bind, Option.bind_eq_some_iff] at h
    obtain ⟨first, -, list, -, hadd⟩ := h
    rw [(addToList_same hadd).watches_eq]
    simp [watches]

/-- The event of the pipe is the first one that is added. -/
theorem Watches.opened (h : s.Watches none) {n : Int} (hn : 0 ≤ n) :
    ((s.rilEventSet (.event .wakeupfd) n true).rilEventAdd (.event .wakeupfd)).Watches
      (some n) := by
  obtain ⟨htable, hfds, hnfds⟩ := h
  have hfree : (List.finRange maxFdEvents).find? (fun i =>
      ((s.rilEventSet (.event .wakeupfd) n true).watchTable i).isNone) = some firstSlot := by
    have hnone : (s.rilEventSet (.event .wakeupfd) n true).watchTable = fun _ => none := htable
    rw [hnone]
    rfl
  unfold rilEventAdd
  rw [hfree]
  simp [Watches, watches, State.rilEventSet, clear, htable, hfds, hnfds, hn]

theorem rilEventAdd_links (s : State Source) (ev : Node Source) :
    (s.rilEventAdd ev).links = s.links ∧ (s.rilEventAdd ev).timeout = s.timeout := by
  unfold rilEventAdd
  split <;> exact ⟨rfl, rfl⟩

/-- The event of the pipe, as an entry of the pending list. -/
def wakeTimer (s : State Source) : Timer Source :=
  ⟨0, .wakeupfd, s.timeout (.event .wakeupfd)⟩

theorem foldlM_readReady_none {rfds : Int → Bool} {is : List (Fin maxFdEvents)} {n : Int}
    {fired : List (Node Source)} (h : ∀ i ∈ is, s.watchTable i = none) :
    is.foldlM (readReady rfds) (s, n, fired) = some (s, n, fired) := by
  induction is with
  | nil => rfl
  | cons i is ih =>
    have hi := h i List.mem_cons_self
    rw [List.foldlM_cons, readReady_idle (by simp [hi])]
    exact ih fun j hj => h j (List.mem_cons_of_mem i hj)

/-- When the pipe is ready, its event is put at the end of the pending list. -/
theorem Holds.processReadReadies_wake (h : s.Holds ts ps) (hs : s.Watches (some fd))
    (hwake : .wakeupfd ∉ (ts ++ ps).map Timer.event) (rfds : Int → Bool) (n : Int) :
    ∃ s' fired, s.processReadReadies rfds n = some (s', fired) ∧ s'.watches = s.watches ∧
      s'.Holds ts (ps ++ if 0 < n ∧ rfds fd = true then [s.wakeTimer] else []) := by
  have hs' := hs
  simp only [Watches, watches, Prod.mk.injEq] at hs'
  obtain ⟨htable, -, -, hfd, hpersist⟩ := hs'
  have hslots : List.finRange maxFdEvents = firstSlot :: (List.finRange maxFdEvents).tail := rfl
  have hrest : ∀ i ∈ (List.finRange maxFdEvents).tail, s.watchTable i = none := by
    intro i hi
    have hne : i ≠ firstSlot := by
      rintro rfl
      exact absurd hi (by decide)
    simp [htable, hne]
  have hfirst : s.watchTable firstSlot = some (.event .wakeupfd) := by simp [htable]
  unfold State.processReadReadies
  rw [hslots, List.foldlM_cons]
  by_cases hready : 0 < n ∧ rfds fd = true
  · obtain ⟨s', hadd, hholds⟩ := h.addToList_pending (t := s.wakeTimer) hwake rfl
    have hsame := addToList_same hadd
    have hkeep : s'.persist (.event .wakeupfd) = true := by
      rw [hsame]
      exact hpersist
    have hturn : readReady rfds (s, n, []) firstSlot = some (s', n - 1, [.event .wakeupfd]) := by
      simp only [readReady, hfirst, hfd, gt_iff_lt, hready, and_self, if_true]
      rw [show s.addToList (.event .wakeupfd) .pendingList = some s' from hadd]
      simp [hkeep]
    have htail : ∀ i ∈ (List.finRange maxFdEvents).tail, s'.watchTable i = none := by
      rw [hsame]
      exact hrest
    refine ⟨s', [.event .wakeupfd], ?_, hsame.watches_eq, ?_⟩
    · rw [hturn]
      simp [foldlM_readReady_none htail]
    · rw [if_pos hready]
      exact hholds
  · have hturn : readReady rfds (s, n, []) firstSlot = some (s, n, []) := by
      refine readReady_idle (fun rev hrev => ?_) []
      rw [hfirst] at hrev
      cases hrev
      rw [hfd]
      exact hready
    refine ⟨s, [], ?_, rfl, ?_⟩
    · rw [hturn]
      simp [foldlM_readReady_none hrest]
    · rw [if_neg hready, List.append_nil]
      exact h

/-- The time that `select` is given ends with the first timer. -/
theorem Holds.calcNextTimeout (h : s.Holds ts ps) (hsorted : ts.Pairwise Timer.Before)
    (hvalid : ∀ t ∈ ts, t.timeout.Valid) {now : Timeval} (hnow : now.Valid) :
    ∃ ptv, s.calcNextTimeout now = some ptv ∧
      ∀ t ∈ ts, ∃ tv ∈ ptv, timeradd now tv ≤ max now t.timeout := by
  unfold State.calcNextTimeout
  rw [h.timers.next_eq]
  cases ts with
  | nil => exact ⟨none, rfl, nofun⟩
  | cons t ts =>
    have htimeout : s.timeout t.node = t.timeout := h.timeouts t (by simp)
    have hne : t.node ≠ .timerList := nofun
    have hle : ∀ u ∈ t :: ts, t.timeout ≤ u.timeout := by
      intro u hu
      rcases List.mem_cons.mp hu with rfl | hu
      · exact le_rfl
      · exact (List.pairwise_cons.mp hsorted).1 u hu
    simp only [List.map_cons, List.headD_cons, Option.bind_eq_bind, Option.bind_some, hne,
      if_false, htimeout, timercmp_iff]
    by_cases hlater : now < t.timeout
    · refine ⟨some (timersub t.timeout now), by simp [hlater], fun u hu => ⟨_, rfl, ?_⟩⟩
      rw [Timeval.timeradd_timersub (hvalid t List.mem_cons_self)]
      exact (hle u hu).trans (le_max_right _ _)
    · refine ⟨some ⟨0, 0⟩, by simp [hlater], fun u _ => ⟨_, rfl, ?_⟩⟩
      rw [Timeval.timeradd_zero hnow]
      exact le_max_left _ _

end State

/-! ## The requests and the lists -/

/-- Whose callback an event is. -/
def Source.callee : Source → Option Nat
  | .wakeupfd => none
  | .user p => some p

def Phase.callee : Phase → Option Nat
  | .calling ev _ => ev.callee
  | _ => none

variable {κ : Type} {infos : Nat → Option (Request κ)} {callee : Option Nat}
variable {requests : List (Request κ)} {calls : List (Request κ × Timeval)}
variable {p : Nat} {r : Request κ}

/-- Every request has been called or is waiting; `callee` is the one that is being called. -/
structure Record (infos : Nat → Option (Request κ)) (callee : Option Nat)
    (requests : List (Request κ)) (calls : List (Request κ × Timeval)) : Prop where
  requested : ∀ p r, infos p = some r → r ∈ requests
  accounted : ∀ r ∈ requests, r ∈ calls.map Prod.fst ∨ ∃ p, infos p = some r
  ids : ∀ r ∈ requests, r.id < requests.length
  unique : ∀ r ∈ requests, ∀ r' ∈ requests, r.id = r'.id → r = r'
  apart : ∀ p q r, infos p = some r → infos q = some r → p = q
  called : ∀ p r, infos p = some r → (r ∈ calls.map Prod.fst ↔ callee = some p)
  callee_info : ∀ p, callee = some p → (infos p).isSome = true
  once : (calls.map fun c => c.1.id).Nodup
  late : ∀ c ∈ calls, c.1 ∈ requests ∧ c.1.time < c.2

theorem update_eq_some {x : Option (Request κ)} {q : Nat} :
    Function.update infos p x q = some r ↔ q = p ∧ x = some r ∨ q ≠ p ∧ infos q = some r := by
  by_cases hq : q = p
  · subst hq
    simp
  · simp [hq]

theorem Record.mem_requests (h : Record infos callee requests calls)
    (hr : r ∈ calls.map Prod.fst) : r ∈ requests := by
  obtain ⟨c, hc, rfl⟩ := List.mem_map.mp hr
  exact (h.late c hc).1

theorem Record.request (h : Record infos callee requests calls) (hp : infos p = none)
    (callback : κ) (time : Timeval) :
    Record (Function.update infos p (some ⟨requests.length, callback, time⟩)) callee
      (⟨requests.length, callback, time⟩ :: requests) calls := by
  generalize hnew : (⟨requests.length, callback, time⟩ : Request κ) = new
  have hid : new.id = requests.length := by rw [← hnew]
  have hfresh : new ∉ requests := by
    intro hmem
    have hlt := h.ids new hmem
    omega
  refine ⟨?_, ?_, ?_, ?_, ?_, ?_, ?_, h.once, ?_⟩
  · intro q r hq
    obtain ⟨-, hr⟩ | ⟨-, hq⟩ := update_eq_some.mp hq
    · cases hr
      exact List.mem_cons_self
    · exact List.mem_cons_of_mem _ (h.requested q r hq)
  · intro r hr
    rcases List.mem_cons.mp hr with rfl | hr
    · exact .inr ⟨p, by simp⟩
    · obtain hcalled | ⟨q, hq⟩ := h.accounted r hr
      · exact .inl hcalled
      · refine .inr ⟨q, update_eq_some.mpr (.inr ⟨?_, hq⟩)⟩
        rintro rfl
        rw [hp] at hq
        cases hq
  · intro r hr
    rw [List.length_cons]
    rcases List.mem_cons.mp hr with rfl | hr
    · omega
    · exact Nat.lt_succ_of_lt (h.ids r hr)
  · intro r hr r' hr' heq
    rcases List.mem_cons.mp hr with rfl | hold
    · rcases List.mem_cons.mp hr' with rfl | hold'
      · rfl
      · have hlt := h.ids r' hold'
        omega
    · rcases List.mem_cons.mp hr' with rfl | hold'
      · have hlt := h.ids r hold
        omega
      · exact h.unique r hold r' hold' heq
  · intro q q' r hq hq'
    obtain ⟨rfl, hr⟩ | ⟨-, hold⟩ := update_eq_some.mp hq
    · obtain ⟨rfl, -⟩ | ⟨-, hold'⟩ := update_eq_some.mp hq'
      · rfl
      · cases hr
        exact absurd (h.requested q' _ hold') hfresh
    · obtain ⟨rfl, hr⟩ | ⟨-, hold'⟩ := update_eq_some.mp hq'
      · cases hr
        exact absurd (h.requested q _ hold) hfresh
      · exact h.apart q q' r hold hold'
  · intro q r hq
    obtain ⟨rfl, hr⟩ | ⟨-, hq⟩ := update_eq_some.mp hq
    · cases hr
      refine iff_of_false (fun hcalled => hfresh (h.mem_requests hcalled)) fun hcallee => ?_
      have hsome := h.callee_info q hcallee
      rw [hp] at hsome
      cases hsome
    · exact h.called q r hq
  · intro q hq
    by_cases hne : q = p
    · simp [hne]
    · simpa [hne] using h.callee_info q hq
  · intro c hc
    exact ⟨List.mem_cons_of_mem _ (h.late c hc).1, (h.late c hc).2⟩

theorem Record.fire (h : Record infos none requests calls) (hp : infos p = some r)
    {now : Timeval} (hnow : r.time < now) :
    Record infos (some p) requests ((r, now) :: calls) := by
  have hnot : r ∉ calls.map Prod.fst := by
    intro hcalled
    cases (h.called p r hp).mp hcalled
  refine ⟨h.requested, ?_, h.ids, h.unique, h.apart, ?_, ?_, ?_, ?_⟩
  · intro r' hr'
    exact (h.accounted r' hr').imp_left (List.mem_cons_of_mem _)
  · intro q r' hq
    rw [List.map_cons, List.mem_cons, Option.some.injEq]
    constructor
    · rintro (rfl | hcalled)
      · exact h.apart p q r' hp hq
      · cases (h.called q r' hq).mp hcalled
    · rintro rfl
      rw [hp] at hq
      cases hq
      exact .inl rfl
  · intro q hq
    cases hq
    simp [hp]
  · rw [List.map_cons, List.nodup_cons]
    refine ⟨fun hmem => ?_, h.once⟩
    obtain ⟨c, hc, hid⟩ := List.mem_map.mp hmem
    have heq := h.unique c.1 (h.late c hc).1 r (h.requested p r hp) hid
    exact hnot (heq ▸ List.mem_map_of_mem hc)
  · intro c hc
    rcases List.mem_cons.mp hc with rfl | hc
    · exact ⟨h.requested p r hp, hnow⟩
    · exact h.late c hc

theorem Record.free (h : Record infos (some p) requests calls) :
    Record (Function.update infos p none) none requests calls := by
  have hold : ∀ q r, Function.update infos p none q = some r → q ≠ p ∧ infos q = some r := by
    intro q r hq
    obtain ⟨-, hr⟩ | hq := update_eq_some.mp hq
    · cases hr
    · exact hq
  refine ⟨fun q r hq => h.requested q r (hold q r hq).2, ?_, h.ids, h.unique,
    fun q q' r hq hq' => h.apart q q' r (hold q r hq).2 (hold q' r hq').2, ?_, ?_, h.once,
    h.late⟩
  · intro r hr
    obtain hcalled | ⟨q, hq⟩ := h.accounted r hr
    · exact .inl hcalled
    · by_cases hne : q = p
      · subst hne
        exact .inl ((h.called q r hq).mpr rfl)
      · exact .inr ⟨q, update_eq_some.mpr (.inr ⟨hne, hq⟩)⟩
  · intro q r hq
    obtain ⟨hne, hq⟩ := hold q r hq
    rw [h.called q r hq, Option.some.injEq]
    refine iff_of_false (fun heq => hne heq.symm) fun hnone => ?_
    cases hnone
  · intro q hq
    cases hq

/-- The timer is that of a request that has not been called. -/
def Waits (infos : Nat → Option (Request κ)) (t : Timer Source) : Prop :=
  ∃ p r, t.event = .user p ∧ infos p = some r ∧ r.time = t.timeout

/-- `ts` and `ps` are in the lists; the timers that were due when they were last checked are in the
second one. -/
structure Lists (s : State Source) (infos : Nat → Option (Request κ)) (callee : Option Nat)
    (count : Nat) (checked : Timeval) (ts ps : List (Timer Source)) : Prop where
  holds : s.Holds ts ps
  sorted : ts.Pairwise Timer.Before
  timers : ∀ t ∈ ts, Waits infos t
  pendings : ∀ t ∈ ps, t.event = .wakeupfd ∨ Waits infos t ∧ t.timeout < checked
  live : ∀ p r, infos p = some r → .user p ∈ (ts ++ ps).map Timer.event ∨ callee = some p
  calling : ∀ p, callee = some p → .user p ∉ (ts ++ ps).map Timer.event
  length : ts.length ≤ count
  punctual : ∀ t ∈ ts, checked ≤ t.timeout
  valid : ∀ t ∈ ts, t.timeout.Valid

section Lists

variable {s s' : State Source} {count : Nat} {checked : Timeval} {ts ps : List (Timer Source)}

theorem Waits.mono {infos' : Nat → Option (Request κ)} {t : Timer Source} (h : Waits infos t)
    (hinfos : ∀ p r, t.event = .user p → infos p = some r → infos' p = some r) :
    Waits infos' t := by
  obtain ⟨p, r, hp, hr, htime⟩ := h
  exact ⟨p, r, hp, hinfos p r hp hr, htime⟩

/-- The events in the lists are those of allocated memory. -/
theorem Lists.info (h : Lists s infos callee count checked ts ps)
    (hp : .user p ∈ (ts ++ ps).map Timer.event) : (infos p).isSome = true := by
  obtain ⟨t, ht, hev⟩ := List.mem_map.mp hp
  have hwaits : Waits infos t := by
    rcases List.mem_append.mp ht with ht | ht
    · exact h.timers t ht
    · obtain hwake | ⟨hwaits, -⟩ := h.pendings t ht
      · rw [hev] at hwake
        cases hwake
      · exact hwaits
  obtain ⟨q, r, hq, hr, -⟩ := hwaits
  rw [hev] at hq
  cases hq
  simp [hr]

theorem Lists.request (h : Lists s infos callee count checked ts ps) (hp : infos p = none)
    (hcallee : callee ≠ some p) {tv now : Timeval} (htv : tv.Valid) (hnow : now.Valid)
    (hchecked : checked ≤ now) {fuel : Nat} (hfuel : count < fuel) (id : Nat) (callback : κ) :
    ∃ s', (s.rilEventSet (.event (.user p)) (-1) false).rilTimerAdd (.event (.user p)) (some tv)
        now fuel = some s' ∧ s'.watches = s.watches ∧
      Lists s' (Function.update infos p (some ⟨id, callback, timeradd now tv⟩)) callee (count + 1)
        checked (Timer.insert ⟨id, .user p, timeradd now tv⟩ ts) ps := by
  have hnot : .user p ∉ (ts ++ ps).map Timer.event := by
    intro hmem
    have hsome := h.info hmem
    rw [hp] at hsome
    cases hsome
  obtain ⟨s', hadd, -, hholds⟩ := (h.holds.rilEventSet hnot (-1) false).rilTimerAdd
    (lt_of_le_of_lt h.length hfuel) hnot tv now id
  have hwatches : s'.watches = s.watches :=
    (State.rilTimerAdd_watches hadd).trans (State.rilEventSet_watches p (-1) false)
  have hperm := Timer.insert_perm ⟨id, .user p, timeradd now tv⟩ ts
  have hlater : now ≤ timeradd now tv := htv.le_timeradd now
  have hmono : ∀ t, Waits infos t →
      Waits (Function.update infos p (some ⟨id, callback, timeradd now tv⟩)) t := by
    intro t hwaits
    refine hwaits.mono fun q r _ hq => update_eq_some.mpr (.inr ⟨?_, hq⟩)
    rintro rfl
    rw [hp] at hq
    cases hq
  have hevents : ∀ e, e ∈ ((Timer.insert ⟨id, .user p, timeradd now tv⟩ ts) ++ ps).map Timer.event ↔
      e = .user p ∨ e ∈ (ts ++ ps).map Timer.event := by
    intro e
    rw [((hperm.append_right ps).map Timer.event).mem_iff, List.cons_append, List.map_cons,
      List.mem_cons]
  refine ⟨s', hadd, hwatches, hholds, Timer.insert_sorted h.sorted _, ?_, ?_, ?_, ?_, ?_, ?_, ?_⟩
  · intro t ht
    rcases List.mem_cons.mp (hperm.subset ht) with rfl | ht
    · exact ⟨p, _, rfl, Function.update_self .., rfl⟩
    · exact hmono t (h.timers t ht)
  · intro t ht
    exact (h.pendings t ht).imp_right fun hwaits => ⟨hmono t hwaits.1, hwaits.2⟩
  · intro q r hq
    rw [hevents]
    obtain ⟨rfl, -⟩ | ⟨-, hq⟩ := update_eq_some.mp hq
    · exact .inl (.inl rfl)
    · exact (h.live q r hq).imp_left .inr
  · intro q hq
    rw [hevents, not_or]
    refine ⟨?_, h.calling q hq⟩
    intro heq
    cases heq
    exact hcallee hq
  · have hlength := hperm.length_eq
    rw [List.length_cons] at hlength
    rw [hlength]
    exact Nat.succ_le_succ h.length
  · intro t ht
    rcases List.mem_cons.mp (hperm.subset ht) with rfl | ht
    · exact hchecked.trans hlater
    · exact h.punctual t ht
  · intro t ht
    rcases List.mem_cons.mp (hperm.subset ht) with rfl | ht
    · exact hnow.timeradd htv
    · exact h.valid t ht

theorem Lists.processTimeouts (h : Lists s infos callee count checked ts ps) {now : Timeval}
    (hnow : checked ≤ now) {fuel : Nat} (hfuel : count < fuel) :
    ∃ s' expired, s.processTimeouts now fuel = some (s', expired) ∧ s'.watches = s.watches ∧
      Lists s' infos callee count now (ts.dropWhile (Timer.due now))
        (ps ++ ts.takeWhile (Timer.due now)) := by
  obtain ⟨s', hexpire, hholds⟩ := h.holds.processTimeouts now (lt_of_le_of_lt h.length hfuel)
  have hsplit : ts.takeWhile (Timer.due now) ++ ts.dropWhile (Timer.due now) = ts :=
    List.takeWhile_append_dropWhile
  have hdrop : ∀ t ∈ ts.dropWhile (Timer.due now), t ∈ ts := fun t ht =>
    (List.dropWhile_suffix _).subset ht
  have hevents : ∀ e, e ∈ (ts.dropWhile (Timer.due now) ++
      (ps ++ ts.takeWhile (Timer.due now))).map Timer.event ↔ e ∈ (ts ++ ps).map Timer.event := by
    intro e
    have hperm := Timer.move_perm now ts ps []
    simp only [List.append_nil] at hperm
    rw [← List.append_assoc] at hperm ⊢
    exact (hperm.map Timer.event).mem_iff
  refine ⟨s', _, hexpire, (State.processTimeouts_same hexpire).watches_eq, hholds,
    h.sorted.sublist (List.dropWhile_sublist _), fun t ht => h.timers t (hdrop t ht), ?_, ?_, ?_,
    ?_, Timer.le_timeout_of_mem_dropWhile h.sorted, fun t ht => h.valid t (hdrop t ht)⟩
  · intro t ht
    rcases List.mem_append.mp ht with ht | ht
    · exact (h.pendings t ht).imp_right fun hwaits => ⟨hwaits.1, hwaits.2.trans_le hnow⟩
    · exact .inr ⟨h.timers t (List.takeWhile_subset _ ht), Timer.timeout_lt_of_mem_takeWhile ht⟩
  · intro q r hq
    rw [hevents]
    exact h.live q r hq
  · intro q hq
    rw [hevents]
    exact h.calling q hq
  · exact (List.dropWhile_sublist _).length_le.trans h.length

theorem Lists.processReadReadies (h : Lists s infos callee count checked ts ps) {fd : Int}
    (hs : s.Watches (some fd)) (hwake : ∀ t ∈ ps, t.event ≠ .wakeupfd) (rfds : Int → Bool)
    (n : Int) :
    ∃ s' fired, s.processReadReadies rfds n = some (s', fired) ∧ s'.watches = s.watches ∧
      ∃ us, Lists s' infos callee count checked ts (ps ++ us) := by
  have hnot : .wakeupfd ∉ (ts ++ ps).map Timer.event := by
    intro hmem
    obtain ⟨t, ht, hev⟩ := List.mem_map.mp hmem
    rcases List.mem_append.mp ht with ht | ht
    · obtain ⟨p, r, hp, -⟩ := h.timers t ht
      rw [hev] at hp
      cases hp
    · exact hwake t ht hev
  obtain ⟨s', fired, hread, hwatches, hholds⟩ :=
    h.holds.processReadReadies_wake hs hnot rfds n
  generalize hus : (if 0 < n ∧ rfds fd = true then [s.wakeTimer] else []) = us at hholds
  have hwakes : ∀ t ∈ us, t.event = .wakeupfd := by
    intro t ht
    rw [← hus] at ht
    split at ht
    · rw [List.mem_singleton.mp ht]
      rfl
    · cases ht
  have hevents : ∀ p, .user p ∈ (ts ++ (ps ++ us)).map Timer.event ↔
      .user p ∈ (ts ++ ps).map Timer.event := by
    intro p
    rw [← List.append_assoc, List.map_append, List.mem_append]
    refine or_iff_left fun hmem => ?_
    obtain ⟨t, ht, hev⟩ := List.mem_map.mp hmem
    rw [hwakes t ht] at hev
    cases hev
  refine ⟨s', fired, hread, hwatches, us, hholds, h.sorted, h.timers, ?_, ?_, ?_, h.length,
    h.punctual, h.valid⟩
  · intro t ht
    rcases List.mem_append.mp ht with ht | ht
    · exact h.pendings t ht
    · exact .inl (hwakes t ht)
  · intro p r hp
    rw [hevents]
    exact h.live p r hp
  · intro p hp
    rw [hevents]
    exact h.calling p hp

theorem Lists.fire {t : Timer Source} (h : Lists s infos none count checked ts (t :: ps)) :
    ∃ s', s.fire t.node = some (s', State.firstNode ps .pendingList) ∧ s'.watches = s.watches ∧
      Lists s' infos t.event.callee count checked ts ps := by
  obtain ⟨s', hfire, hholds⟩ := h.holds.fire
  have hevents : ∀ e, e ∈ (ts ++ t :: ps).map Timer.event ↔
      e = t.event ∨ e ∈ (ts ++ ps).map Timer.event := by
    intro e
    rw [(List.perm_middle.map Timer.event).mem_iff, List.map_cons, List.mem_cons]
  have hnodup := h.holds.distinct
  rw [(List.perm_middle.map Timer.event).nodup_iff, List.map_cons, List.nodup_cons] at hnodup
  refine ⟨s', hfire, (State.fire_same hfire).watches_eq, hholds, h.sorted, h.timers,
    fun u hu => h.pendings u (List.mem_cons_of_mem t hu), ?_, ?_, h.length, h.punctual, h.valid⟩
  · intro p r hp
    obtain hmem | hnone := h.live p r hp
    · obtain hev | hmem := (hevents _).mp hmem
      · exact .inr (by rw [← hev]; rfl)
      · exact .inl hmem
    · cases hnone
  · intro p hp
    have hev : t.event = .user p := by
      cases hsource : t.event with
      | wakeupfd =>
        rw [hsource] at hp
        cases hp
      | user q =>
        rw [hsource] at hp
        cases hp
        rfl
    rw [← hev]
    exact hnodup.1

theorem Lists.free (h : Lists s infos (some p) count checked ts ps) :
    Lists s (Function.update infos p none) none count checked ts ps := by
  have hmono : ∀ t ∈ ts ++ ps, Waits infos t → Waits (Function.update infos p none) t := by
    intro t ht hwaits
    refine hwaits.mono fun q r hev hq => update_eq_some.mpr (.inr ⟨?_, hq⟩)
    rintro rfl
    exact h.calling q rfl (hev ▸ List.mem_map_of_mem ht)
  refine ⟨h.holds, h.sorted, fun t ht => hmono t (List.mem_append_left _ ht) (h.timers t ht), ?_,
    ?_, ?_, h.length, h.punctual, h.valid⟩
  · intro t ht
    exact (h.pendings t ht).imp_right fun hwaits =>
      ⟨hmono t (List.mem_append_right _ ht) hwaits.1, hwaits.2⟩
  · intro q r hq
    obtain ⟨-, hr⟩ | ⟨hne, hq⟩ := update_eq_some.mp hq
    · cases hr
    · refine (h.live q r hq).imp_right fun hcallee => ?_
      cases hcallee
      exact absurd rfl hne
  · intro q hq
    cases hq

end Lists

/-! ## The invariant -/

/-- What is in the pending list, by where the thread is. -/
def Phase.Place (ps : List (Timer Source)) : Phase → Prop
  | .expired .. => ∀ t ∈ ps, t.event ≠ .wakeupfd
  | .read => True
  | .firing ev => ev = State.firstNode ps .pendingList
  | .calling _ next => next = State.firstNode ps .pendingList
  | _ => ps = []

/-- The thread has the pipe, and is not in `select`. -/
def Phase.isAwake : Phase → Bool
  | .starting | .selecting .. => false
  | _ => true

namespace Process

/-- While the loop waits, it has been woken or is about to be, or its time ends with the first of
the timers. -/
def Asleep (w : Process κ) (ts : List (Timer Source)) : Prop :=
  ∀ rfds nfds ptv start, w.phase = .selecting rfds nfds ptv start →
    rfds = w.state.readFds ∧ nfds = w.state.nfds ∧
      (w.pipe ≠ 0 ∨ 0 < w.triggering ∨
        ∀ t ∈ ts, ∃ tv ∈ ptv, timeradd start tv ≤ max start t.timeout)

structure Inv (w : Process κ) (ts ps : List (Timer Source)) : Prop where
  lists : Lists w.state w.infos w.phase.callee w.requests.length w.checked ts ps
  record : Record w.infos w.phase.callee w.requests w.calls
  watches : w.state.Watches w.sFdWakeupRead
  closed : w.phase = .starting → w.sFdWakeupRead = none
  opened : w.sFdWakeupRead = none → w.phase = .starting ∨ w.phase = .ended
  place : w.phase.Place ps
  clock : w.checked ≤ w.clock
  asleep : w.Asleep ts

variable {w w' : Process κ} {ts ps : List (Timer Source)}

theorem Inv.sFdWakeupRead_ne (h : w.Inv ts ps) (hstarting : w.phase ≠ .starting)
    (hended : w.phase ≠ .ended) : w.sFdWakeupRead ≠ none := by
  intro hnone
  rcases h.opened hnone with hphase | hphase
  · exact hstarting hphase
  · exact hended hphase

theorem inv_of_isAwake
    (lists : Lists w.state w.infos w.phase.callee w.requests.length w.checked ts ps)
    (record : Record w.infos w.phase.callee w.requests w.calls)
    (watches : w.state.Watches w.sFdWakeupRead) (hopen : w.sFdWakeupRead ≠ none)
    (place : w.phase.Place ps) (clock : w.checked ≤ w.clock) (hawake : w.phase.isAwake = true) :
    w.Inv ts ps := by
  refine ⟨lists, record, watches, ?_, ?_, place, clock, ?_⟩
  · intro hstarting
    rw [hstarting] at hawake
    cases hawake
  · intro hnone
    exact absurd hnone hopen
  · intro rfds nfds ptv start hselecting
    rw [hselecting] at hawake
    cases hawake

theorem Inv.request (h : w.Inv ts ps) {pInfo : Option Nat} {callback : κ}
    {relativeTime : Option Timeval} {now : Timeval} {inEventLoop : Bool}
    (hallowed : w.Allowed (.request pInfo callback relativeTime now inEventLoop)) :
    ∃ w' ts' ps', w.handle (.request pInfo callback relativeTime now inEventLoop) = some w' ∧
      w'.Inv ts' ps' := by
  obtain ⟨hfree, hrelative, hnow, hclock, hloop⟩ := hallowed
  cases pInfo with
  | none =>
    exact ⟨_, ts, ps, rfl, h.lists, h.record, h.watches, h.closed, h.opened, h.place,
      h.clock.trans hclock, h.asleep⟩
  | some p =>
    have hp : w.infos p = none := Option.isNone_iff_eq_none.mp (hfree p rfl)
    have hcallee : w.phase.callee ≠ some p := by
      intro hcallee
      have hsome := h.record.callee_info p hcallee
      rw [hp] at hsome
      cases hsome
    have htv : (relativeTime.getD ⟨0, 0⟩).Valid := by
      cases relativeTime with
      | none => decide
      | some t => exact hrelative t rfl
    obtain ⟨s', hadd, hwatches, hlists⟩ := h.lists.request hp hcallee htv hnow
      (h.clock.trans hclock) (Nat.lt_succ_self _) w.requests.length callback
    let request : Request κ :=
      ⟨w.requests.length, callback, timeradd now (relativeTime.getD ⟨0, 0⟩)⟩
    refine ⟨{ w with
        state := s'
        infos := Function.update w.infos p (some request)
        triggering := if inEventLoop then w.triggering else w.triggering + 1
        clock := now
        requests := request :: w.requests }, _, ps, ?_, hlists, h.record.request hp callback _,
      h.watches.congr hwatches, h.closed, h.opened, h.place, h.clock.trans hclock, ?_⟩
    · simp only [handle, Process.request, fuel, hadd, Option.bind_eq_bind, Option.bind_some]
      rfl
    · intro rfds nfds ptv start hphase
      have hphase : w.phase = .selecting rfds nfds ptv start := hphase
      obtain ⟨hrfds, hnfds, -⟩ := h.asleep rfds nfds ptv start hphase
      have hsame := hwatches
      simp only [State.watches, Prod.mk.injEq] at hsame
      refine ⟨hrfds.trans hsame.2.1.symm, hnfds.trans hsame.2.2.1.symm, .inr (.inl ?_)⟩
      have hout : inEventLoop = false := by
        by_contra hne
        have hcallback := hloop (by simpa using hne)
        rw [hphase] at hcallback
        cases hcallback
      simp [hout]

/-- An event that is not in a list is set up and added. -/
theorem Inv.eventLoop (h : w.Inv ts ps) {fd : Option Int}
    (hallowed : w.Allowed (.eventLoop fd)) :
    ∃ w' ts' ps', w.handle (.eventLoop fd) = some w' ∧ w'.Inv ts' ps' := by
  obtain ⟨hphase, hfd⟩ := hallowed
  obtain ⟨lists, record, watches, closed, -, place, clock, -⟩ := h
  rw [hphase] at lists record place
  have hps : ps = [] := place
  subst hps
  have hclosed : w.sFdWakeupRead = none := closed hphase
  cases fd with
  | none =>
    exact ⟨{ w with phase := .ended }, ts, [], rfl, lists, record, watches, nofun,
      fun _ => .inr rfl, rfl, clock, nofun⟩
  | some n =>
    have hnot : .wakeupfd ∉ (ts ++ []).map Timer.event := by
      intro hmem
      obtain ⟨t, ht, hev⟩ := List.mem_map.mp hmem
      rw [List.append_nil] at ht
      obtain ⟨p, r, hp, -⟩ := lists.timers t ht
      rw [hev] at hp
      cases hp
    have hset := lists.holds.rilEventSet hnot n true
    obtain ⟨hlinks, htimeout⟩ := State.rilEventAdd_links
      (w.state.rilEventSet (.event .wakeupfd) n true) (.event .wakeupfd)
    have hholds : ((w.state.rilEventSet (.event .wakeupfd) n true).rilEventAdd
        (.event .wakeupfd)).Holds ts [] := by
      refine ⟨?_, ?_, fun t ht => ?_, hset.distinct⟩
      · rw [hlinks]
        exact hset.timers
      · rw [hlinks]
        exact hset.pending
      · rw [htimeout]
        exact hset.timeouts t ht
    rw [hclosed] at watches
    exact ⟨_, ts, [], rfl, inv_of_isAwake { lists with holds := hholds } record
      (watches.opened (hfd n rfl)) (Option.some_ne_none n) rfl clock rfl⟩

theorem Inv.triggerEvLoop (h : w.Inv ts ps) : w.triggerEvLoop.Inv ts ps := by
  refine ⟨h.lists, h.record, h.watches, h.closed, h.opened, h.place, h.clock, ?_⟩
  intro rfds nfds ptv start hphase
  have hphase : w.phase = .selecting rfds nfds ptv start := hphase
  obtain ⟨hrfds, hnfds, -⟩ := h.asleep rfds nfds ptv start hphase
  refine ⟨hrfds, hnfds, .inl ?_⟩
  have hopen : w.sFdWakeupRead.isSome = true :=
    Option.isSome_iff_ne_none.mpr (h.sFdWakeupRead_ne (by simp [hphase]) (by simp [hphase]))
  simp [Process.triggerEvLoop, hopen]

theorem Inv.select (h : w.Inv ts ps) {now : Timeval} (hallowed : w.Allowed (.select now)) :
    ∃ w' ts' ps', w.handle (.select now) = some w' ∧ w'.Inv ts' ps' := by
  obtain ⟨hphase, hnow, hclock⟩ := hallowed
  have hopen := h.sFdWakeupRead_ne (by simp [hphase]) (by simp [hphase])
  obtain ⟨lists, record, watches, -, -, place, clock, -⟩ := h
  rw [hphase] at lists record place
  obtain ⟨ptv, hcalc, hbound⟩ := lists.holds.calcNextTimeout lists.sorted lists.valid hnow
  refine ⟨{ w with
      phase := .selecting w.state.readFds w.state.nfds ptv now
      clock := now }, ts, ps, ?_, lists, record, watches, nofun,
    fun hnone => absurd hnone hopen, place, clock.trans hclock, ?_⟩
  · simp only [handle, hcalc, Option.bind_eq_bind, Option.bind_some]
    rfl
  · intro rfds nfds ptv' start hselecting
    cases hselecting
    exact ⟨rfl, rfl, .inr (.inr hbound)⟩

theorem Inv.selectReturns (h : w.Inv ts ps) {result : Return} {now : Timeval}
    (hallowed : w.Allowed (.selectReturns result now)) :
    ∃ w' ts' ps', w.handle (.selectReturns result now) = some w' ∧ w'.Inv ts' ps' := by
  obtain ⟨hclock, hreturn⟩ := hallowed
  cases hphase : w.phase with
  | selecting rfds nfds ptv start =>
    have hopen := h.sFdWakeupRead_ne (by simp [hphase]) (by simp [hphase])
    obtain ⟨lists, record, watches, -, -, place, clock, -⟩ := h
    rw [hphase] at lists record place
    have hps : ps = [] := place
    simp only [handle, hphase]
    refine ⟨_, ts, ps, rfl, ?_⟩
    cases result with
    | interrupted =>
      exact inv_of_isAwake lists record watches hopen hps (clock.trans hclock) rfl
    | error =>
      exact inv_of_isAwake lists record watches hopen hps (clock.trans hclock) rfl
    | count =>
      exact inv_of_isAwake lists record watches hopen hps (clock.trans hclock) rfl
  | _ => simp [canReturn, hphase] at hreturn

theorem Inv.processTimeouts (h : w.Inv ts ps) {now : Timeval}
    (hallowed : w.Allowed (.processTimeouts now)) :
    ∃ w' ts' ps', w.handle (.processTimeouts now) = some w' ∧ w'.Inv ts' ps' := by
  obtain ⟨hclock, hselected⟩ := hallowed
  cases hphase : w.phase with
  | selected rfds n =>
    have hopen := h.sFdWakeupRead_ne (by simp [hphase]) (by simp [hphase])
    obtain ⟨lists, record, watches, -, -, place, clock, -⟩ := h
    rw [hphase] at lists record place
    have hps : ps = [] := place
    subst hps
    obtain ⟨s', expired, hexpire, hwatches, hlists⟩ :=
      lists.processTimeouts (clock.trans hclock) (Nat.lt_succ_self _)
    refine ⟨{ w with state := s', phase := .expired rfds n, clock := now, checked := now }, _, _,
      ?_, inv_of_isAwake hlists record (watches.congr hwatches) hopen ?_ le_rfl rfl⟩
    · simp only [handle, hphase, fuel, hexpire, Option.bind_eq_bind, Option.bind_some]
      rfl
    · intro t ht hev
      rw [List.nil_append] at ht
      obtain ⟨p, r, hp, -⟩ := lists.timers t (List.takeWhile_subset _ ht)
      rw [hev] at hp
      cases hp
  | _ => simp [Phase.isSelected, hphase] at hselected

theorem Inv.processReadReadies (h : w.Inv ts ps) (hallowed : w.Allowed .processReadReadies) :
    ∃ w' ts' ps', w.handle .processReadReadies = some w' ∧ w'.Inv ts' ps' := by
  have hexpired : w.phase.isExpired = true := hallowed
  cases hphase : w.phase with
  | expired rfds n =>
    have hopen := h.sFdWakeupRead_ne (by simp [hphase]) (by simp [hphase])
    obtain ⟨lists, record, watches, -, -, place, clock, -⟩ := h
    rw [hphase] at lists record place
    cases hfd : w.sFdWakeupRead with
    | none => exact absurd hfd hopen
    | some fd =>
      rw [hfd] at watches
      obtain ⟨s', fired, hread, hwatches, us, hlists⟩ :=
        lists.processReadReadies watches place (fun fd => decide (fd ∈ rfds)) n
      refine ⟨{ w with state := s', phase := .read }, ts, ps ++ us, ?_,
        inv_of_isAwake hlists record ?_ hopen trivial clock rfl⟩
      · simp only [handle, hphase, hread, Option.bind_eq_bind, Option.bind_some]
        rfl
      · show s'.Watches w.sFdWakeupRead
        rw [hfd]
        exact watches.congr hwatches
  | _ => simp [Phase.isExpired, hphase] at hexpired

theorem Inv.firePending (h : w.Inv ts ps) (hallowed : w.Allowed .firePending) :
    ∃ w' ts' ps', w.handle .firePending = some w' ∧ w'.Inv ts' ps' := by
  have hphase : w.phase = .read := hallowed
  have hopen := h.sFdWakeupRead_ne (by simp [hphase]) (by simp [hphase])
  obtain ⟨lists, record, watches, -, -, place, clock, -⟩ := h
  rw [hphase] at lists record
  have hnext := lists.holds.pending.next_eq
  refine ⟨{ w with phase := .firing ((ps.map Timer.node).headD .pendingList) }, ts, ps, ?_,
    inv_of_isAwake lists record watches hopen rfl clock rfl⟩
  simp only [handle, hnext, Option.bind_eq_bind, Option.bind_some]
  rfl

theorem Inv.fire (h : w.Inv ts ps) (hallowed : w.Allowed .fire) :
    ∃ w' ts' ps', w.handle .fire = some w' ∧ w'.Inv ts' ps' := by
  have hfiring : w.phase.isFiring = true := hallowed
  cases hphase : w.phase with
  | firing ev =>
    have hopen := h.sFdWakeupRead_ne (by simp [hphase]) (by simp [hphase])
    obtain ⟨lists, record, watches, -, -, place, clock, -⟩ := h
    rw [hphase] at lists record place
    have hev : ev = State.firstNode ps .pendingList := place
    subst hev
    cases ps with
    | nil =>
      exact ⟨{ w with phase := .top }, ts, [], by simp [handle, hphase, State.firstNode],
        inv_of_isAwake lists record watches hopen rfl clock rfl⟩
    | cons t ps =>
      obtain ⟨s', hfire, hwatches, hlists⟩ := lists.fire
      have hnode : State.firstNode (t :: ps) .pendingList = .event t.event := rfl
      have hfire : w.state.fire (.event t.event) =
          some (s', State.firstNode ps .pendingList) := hfire
      refine ⟨{ w.call t.event with
          state := s'
          phase := .calling t.event (State.firstNode ps .pendingList) }, ts, ps, ?_, ?_⟩
      · simp only [handle, hphase, hnode, hfire, Option.bind_eq_bind, Option.bind_some]
        rfl
      cases hsource : t.event with
      | wakeupfd =>
        rw [hsource] at hlists
        exact inv_of_isAwake hlists record (watches.congr hwatches) hopen rfl clock rfl
      | user p =>
        rw [hsource] at hlists
        obtain hwake | ⟨⟨q, r, hq, hr, htime⟩, hdue⟩ := lists.pendings t List.mem_cons_self
        · rw [hsource] at hwake
          cases hwake
        · rw [hsource] at hq
          cases hq
          have hlate : r.time < w.clock := by
            rw [htime]
            exact hdue.trans_le clock
          have hcalls : (w.infos p).toList.map (·, w.clock) ++ w.calls =
              (r, w.clock) :: w.calls := by
            simp [hr]
          refine inv_of_isAwake hlists ?_ (watches.congr hwatches) hopen rfl clock rfl
          show Record w.infos (some p) w.requests ((w.infos p).toList.map (·, w.clock) ++ w.calls)
          rw [hcalls]
          exact record.fire hr hlate
  | _ => simp [Phase.isFiring, hphase] at hfiring

theorem Inv.callbackReturns (h : w.Inv ts ps) (hallowed : w.Allowed .callbackReturns) :
    ∃ w' ts' ps', w.handle .callbackReturns = some w' ∧ w'.Inv ts' ps' := by
  have hcalling : w.phase.isCalling = true := hallowed
  cases hphase : w.phase with
  | calling ev next =>
    have hopen := h.sFdWakeupRead_ne (by simp [hphase]) (by simp [hphase])
    obtain ⟨lists, record, watches, -, -, place, clock, -⟩ := h
    rw [hphase] at lists record place
    refine ⟨{ w.returned ev with phase := .firing next }, ts, ps, by simp [handle, hphase], ?_⟩
    cases ev with
    | wakeupfd =>
      exact inv_of_isAwake lists record watches hopen place clock rfl
    | user p =>
      exact inv_of_isAwake lists.free record.free watches hopen place clock rfl
  | _ => simp [Phase.isCalling, hphase] at hcalling

/-- What is allowed is done, and keeps the invariant. -/
theorem Inv.handle (h : w.Inv ts ps) {e : Event κ} (hallowed : w.Allowed e) :
    ∃ w' ts' ps', w.handle e = some w' ∧ w'.Inv ts' ps' := by
  cases e with
  | request => exact h.request hallowed
  | triggerEvLoop => exact ⟨w.triggerEvLoop, ts, ps, rfl, h.triggerEvLoop⟩
  | eventLoop => exact h.eventLoop hallowed
  | select => exact h.select hallowed
  | selectReturns => exact h.selectReturns hallowed
  | processTimeouts => exact h.processTimeouts hallowed
  | processReadReadies => exact h.processReadReadies hallowed
  | firePending => exact h.firePending hallowed
  | fire => exact h.fire hallowed
  | callbackReturns => exact h.callbackReturns hallowed

/-! ## Every run -/

/-- While the loop waits for nothing, another thread requests a callback, which is then called. -/
example : (((new ⟨⟨fun _ => none, fun _ => none⟩, fun _ => 0, fun _ => 0, fun _ => false,
      fun _ => ⟨0, 0⟩, ∅, 0, fun _ => none⟩ ⟨0, 0⟩ : Process Unit) |> fun w =>
    [Event.eventLoop (some 3), .select ⟨0, 0⟩, .request (some 7) () (some ⟨0, 5⟩) ⟨1, 0⟩ false,
      .triggerEvLoop, .selectReturns .count ⟨1, 1⟩, .processTimeouts ⟨1, 9⟩, .processReadReadies,
      .firePending, .fire].foldlM step w).map fun w => w.calls.map fun c => (c.1.id, c.2)) =
    some [(0, ⟨1, 9⟩)] := by decide +kernel

end Process
end RilEvent
end Huashan
