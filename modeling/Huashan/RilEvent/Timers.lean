import Huashan.RilEvent.Event

/-!
# Huashan.RilEvent.Timers

What `ril_timer_add`, `processTimeouts` and a turn of `firePending` do to the two lists, as changes
of lists of timers. A timer is one addition of an event, which may be added again later.

`Holds s ts ps` says that the lists of `s` are well linked and hold the timers `ts` and `ps`. Each
function has a lemma that says which lists are held after it, and that it does not fail.
-/

namespace Huashan
namespace RilEvent

/-- An addition of an event, the `id`-th one of a run. -/
structure Timer (β : Type) where
  id : Nat
  event : β
  timeout : Timeval
  deriving DecidableEq, Repr

namespace Timer

variable {β : Type}

def node (t : Timer β) : Node β := .event t.event

/-- The timeout is before `now`. -/
def due (now : Timeval) (t : Timer β) : Bool := t.timeout < now

theorem due_iff {now : Timeval} {t : Timer β} : t.due now = true ↔ t.timeout < now :=
  decide_eq_true_iff

theorem timercmp_eq_due (t : Timer β) (now : Timeval) : timercmp t.timeout now = t.due now := by
  rw [Bool.eq_iff_iff, timercmp_iff, due_iff]

/-- `t` is not to be called after `u`. -/
def Before (t u : Timer β) : Prop := t.timeout ≤ u.timeout

/-- `t` between the timers in front that are before it and the others. -/
def insert (t : Timer β) (ts : List (Timer β)) : List (Timer β) :=
  ts.takeWhile (due t.timeout) ++ t :: ts.dropWhile (due t.timeout)

theorem insert_perm (t : Timer β) (ts : List (Timer β)) : (t.insert ts).Perm (t :: ts) := by
  have hsplit : ts.takeWhile (due t.timeout) ++ ts.dropWhile (due t.timeout) = ts :=
    List.takeWhile_append_dropWhile
  have hmiddle : (t.insert ts).Perm
      (t :: (ts.takeWhile (due t.timeout) ++ ts.dropWhile (due t.timeout))) := List.perm_middle
  rw [hsplit] at hmiddle
  exact hmiddle

theorem timeout_lt_of_mem_takeWhile {now : Timeval} {ts : List (Timer β)} {t : Timer β}
    (ht : t ∈ ts.takeWhile (due now)) : t.timeout < now := due_iff.mp (List.mem_takeWhile_imp ht)

theorem le_timeout_of_mem_dropWhile {now : Timeval} {ts : List (Timer β)}
    (hsorted : ts.Pairwise Before) : ∀ t ∈ ts.dropWhile (due now), now ≤ t.timeout := by
  induction ts with
  | nil => exact nofun
  | cons t ts ih =>
    obtain ⟨hfirst, hrest⟩ := List.pairwise_cons.mp hsorted
    by_cases hdue : t.due now = true
    · rw [List.dropWhile_cons_of_pos hdue]
      exact ih hrest
    · rw [List.dropWhile_cons_of_neg hdue]
      have hle : now ≤ t.timeout := not_lt.mp fun hlt => hdue (due_iff.mpr hlt)
      intro u hu
      rcases List.mem_cons.mp hu with rfl | hu
      · exact hle
      · exact hle.trans (hfirst u hu)

/-- A sorted list stays sorted. -/
theorem insert_sorted {ts : List (Timer β)} (hsorted : ts.Pairwise Before) (t : Timer β) :
    (t.insert ts).Pairwise Before := by
  have hback : ∀ u ∈ ts.dropWhile (due t.timeout), t.timeout ≤ u.timeout :=
    le_timeout_of_mem_dropWhile hsorted
  have hfront : ∀ u ∈ ts.takeWhile (due t.timeout), u.Before t := fun u hu =>
    (timeout_lt_of_mem_takeWhile hu).le
  refine List.pairwise_append.mpr ⟨hsorted.sublist (List.takeWhile_sublist _),
    List.pairwise_cons.mpr ⟨hback, hsorted.sublist (List.dropWhile_sublist _)⟩, ?_⟩
  intro u hu v hv
  rcases List.mem_cons.mp hv with rfl | hv
  · exact hfront u hu
  · exact le_trans (hfront u hu) (hback v hv)

/-- The timers that are due come first. -/
theorem pairwise_due {ts : List (Timer β)} (hsorted : ts.Pairwise Before) (now : Timeval) :
    (ts.takeWhile (due now)).Pairwise Before ∧ (ts.dropWhile (due now)).Pairwise Before ∧
      ∀ t ∈ ts.takeWhile (due now), ∀ u ∈ ts.dropWhile (due now), t.Before u := by
  have hsplit : ts.takeWhile (due now) ++ ts.dropWhile (due now) = ts :=
    List.takeWhile_append_dropWhile
  rw [← hsplit, List.pairwise_append] at hsorted
  exact hsorted

/-- The timers that are due go from `ts` to the end of `ps`. -/
theorem move_perm (now : Timeval) (ts ps us : List (Timer β)) :
    (ts.dropWhile (due now) ++ (ps ++ ts.takeWhile (due now) ++ us)).Perm (ts ++ (ps ++ us)) := by
  have hfront : (ps ++ ts.takeWhile (due now) ++ us).Perm
      (ts.takeWhile (due now) ++ (ps ++ us)) := by
    rw [← List.append_assoc (ts.takeWhile (due now))]
    exact List.perm_append_comm.append_right us
  have hback : (ts.dropWhile (due now) ++ (ts.takeWhile (due now) ++ (ps ++ us))).Perm
      (ts.takeWhile (due now) ++ ts.dropWhile (due now) ++ (ps ++ us)) := by
    rw [← List.append_assoc]
    exact List.perm_append_comm.append_right (ps ++ us)
  rw [List.takeWhile_append_dropWhile] at hback
  exact (hfront.append_left _).trans hback

end Timer

/-! ## The functions on rings of timers -/

namespace State

variable {β : Type} [DecidableEq β] {s : State β} {ts ps : List (Timer β)} {e : β}

/-- The two lists hold the timers `ts` and `ps`, each with its timeout. -/
structure Holds (s : State β) (ts ps : List (Timer β)) : Prop where
  timers : s.links.IsRing .timerList (ts.map Timer.node)
  pending : s.links.IsRing .pendingList (ps.map Timer.node)
  timeouts : ∀ t ∈ ts ++ ps, s.timeout t.node = t.timeout
  distinct : ((ts ++ ps).map Timer.event).Nodup

/-- The node of the first timer, or the sentinel behind all of them. -/
def firstNode (ts : List (Timer β)) (list : Node β) : Node β := (ts.map Timer.node).headD list

omit [DecidableEq β] in
/-- The nodes of one list and its sentinel are not those of the other. -/
theorem Holds.disjoint (h : s.Holds ts ps) :
    (∀ c ∈ .pendingList :: ps.map Timer.node, c ∉ .timerList :: ts.map Timer.node) ∧
      ∀ c ∈ .timerList :: ts.map Timer.node, c ∉ .pendingList :: ps.map Timer.node := by
  have hdistinct := h.distinct
  rw [List.map_append, List.nodup_append] at hdistinct
  have hne : ∀ t ∈ ts, ∀ p ∈ ps, t.node ≠ p.node := by
    intro t ht p hp he
    exact hdistinct.2.2 t.event (List.mem_map_of_mem ht) p.event (List.mem_map_of_mem hp)
      (Node.event.inj he)
  refine ⟨fun c hc hc' => ?_, fun c hc hc' => ?_⟩
  · rw [List.mem_cons, List.mem_map] at hc hc'
    rcases hc with rfl | ⟨p, hp, rfl⟩ <;> rcases hc' with hc' | ⟨t, ht, hc'⟩
    · cases hc'
    · cases hc'
    · cases hc'
    · exact hne t ht p hp hc'
  · rw [List.mem_cons, List.mem_map] at hc hc'
    rcases hc with rfl | ⟨t, ht, rfl⟩ <;> rcases hc' with hc' | ⟨p, hp, hc'⟩
    · cases hc'
    · cases hc'
    · cases hc'
    · exact hne t ht p hp hc'.symm

omit [DecidableEq β] in
/-- The node of an event that no timer of a list has is not in its ring. -/
theorem event_notMem {list : Node β} {us : List (Timer β)} (hlist : list ≠ .event e)
    (he : e ∉ us.map Timer.event) : Node.event e ∉ list :: us.map Timer.node := by
  intro hmem
  rcases List.mem_cons.mp hmem with hmem | hmem
  · exact hlist hmem.symm
  · obtain ⟨t, ht, hev⟩ := List.mem_map.mp hmem
    exact he (Node.event.inj hev ▸ List.mem_map_of_mem ht)

/-- The walk stops in front of the first timer that is not before the timeout. -/
theorem findLater_eq (timeout : Timeval) : ∀ (ts : List (Timer β)) (fuel : Nat),
    ts.length < fuel → s.links.Rest (ts.map Timer.node) .timerList →
    (∀ t ∈ ts, s.timeout t.node = t.timeout) →
    s.findLater timeout fuel (firstNode ts .timerList) =
      some (firstNode (ts.dropWhile (Timer.due timeout)) .timerList)
  | _, 0, hfuel, _, _ => by omega
  | [], fuel + 1, _, _, _ => by simp [findLater, firstNode]
  | t :: ts, fuel + 1, hfuel, hrest, htimeouts => by
    obtain ⟨hnext, hrest'⟩ := hrest.next_eq
    have htimeout := htimeouts t List.mem_cons_self
    have hne : t.node ≠ .timerList := nofun
    have ih := findLater_eq timeout ts fuel (by simpa using hfuel) hrest' fun u hu =>
      htimeouts u (List.mem_cons_of_mem t hu)
    have hfirst : firstNode (t :: ts) .timerList = t.node := rfl
    rw [hfirst, findLater, htimeout, Timer.timercmp_eq_due]
    by_cases hdue : t.due timeout = true
    · rw [List.dropWhile_cons_of_pos hdue, ← ih, hnext]
      simp [hdue, hne, firstNode]
    · rw [List.dropWhile_cons_of_neg hdue]
      simp [hdue, hfirst]

/-- A timer is added between those before it and the others. -/
theorem Holds.rilTimerAdd (h : s.Holds ts ps) {fuel : Nat} (hfuel : ts.length < fuel)
    (he : e ∉ (ts ++ ps).map Timer.event) (tv now : Timeval) (id : Nat) :
    ∃ s', s.rilTimerAdd (.event e) (some tv) now fuel = some s' ∧
      s'.timeout (.event e) = timeradd now tv ∧
      s'.Holds (Timer.insert ⟨id, e, timeradd now tv⟩ ts) ps := by
  generalize hnew : timeradd now tv = new
  have hperm := Timer.insert_perm ⟨id, e, new⟩ ts
  have hsplit : ts.takeWhile (Timer.due new) ++ ts.dropWhile (Timer.due new) = ts :=
    List.takeWhile_append_dropWhile
  have hnode : ∀ t ∈ ts ++ ps, t.node ≠ .event e := by
    intro t ht hev
    exact he (Node.event.inj hev ▸ List.mem_map_of_mem ht)
  let s₁ : State β := { s with
    fd := Function.update s.fd (.event e) (-1)
    timeout := Function.update s.timeout (.event e) new }
  have htimeouts : ∀ t ∈ ts ++ ps, s₁.timeout t.node = t.timeout := by
    intro t ht
    rw [← h.timeouts t ht]
    exact Function.update_of_ne (hnode t ht) _ _
  have hself : s₁.timeout (.event e) = new := Function.update_self ..
  have hwalk : s₁.findLater new fuel (firstNode ts .timerList) =
      some (firstNode (ts.dropWhile (Timer.due new)) .timerList) :=
    findLater_eq new ts fuel hfuel h.timers.rest fun t ht =>
      htimeouts t (List.mem_append_left ps ht)
  have hevents : e ∉ ts.map Timer.event ∧ e ∉ ps.map Timer.event := by
    rw [List.map_append, List.mem_append, not_or] at he
    exact he
  have hoff : Node.event e ∉ Node.timerList :: ts.map Timer.node := event_notMem nofun hevents.1
  have htimers := h.timers
  have hdisjoint := h.disjoint.1
  rw [← hsplit, List.map_append] at htimers hoff hdisjoint
  obtain ⟨links, hinsert, hring, hagree⟩ := htimers.insertBefore hoff
  have hadd : s₁.addToList (.event e) (firstNode (ts.dropWhile (Timer.due new)) .timerList) =
      some { s₁ with links := links } := congrArg (Option.map _) hinsert
  refine ⟨{ s₁ with links := links }, ?_, hself, ?_, ?_, fun t ht => ?_, ?_⟩
  · rw [State.rilTimerAdd, h.timers.next_eq, hnew]
    change (s₁.findLater (s₁.timeout (.event e)) fuel (firstNode ts .timerList)).bind
      (s₁.addToList (.event e)) = some { s₁ with links := links }
    rw [hself, hwalk]
    exact hadd
  · rw [Timer.insert, List.map_append]
    exact hring
  · refine hagree.isRing h.pending fun c hc hmem => ?_
    rcases List.mem_cons.mp hmem with rfl | hmem
    · exact event_notMem (by nofun) hevents.2 hc
    · exact hdisjoint c hc hmem
  · rcases List.mem_cons.mp ((hperm.append_right ps).subset ht) with rfl | ht
    · exact hself
    · exact htimeouts t ht
  · refine ((hperm.append_right ps).map Timer.event).nodup_iff.mpr ?_
    exact List.nodup_cons.mpr ⟨he, h.distinct⟩

/-- The first timer is taken out of its list. -/
theorem Holds.removeFromList_timers {t : Timer β} (h : s.Holds (t :: ts) ps) :
    ∃ s', s.removeFromList t.node = some s' ∧ s'.Holds ts ps ∧ s'.timeout = s.timeout := by
  have hring : s.links.IsRing .timerList ([] ++ t.node :: ts.map Timer.node) := h.timers
  obtain ⟨links, hunlink, htimers, hagree⟩ := hring.unlink
  refine ⟨{ s with links := links }, congrArg (Option.map _) hunlink, ⟨htimers, ?_, ?_, ?_⟩, rfl⟩
  · exact hagree.isRing h.pending fun c hc => h.disjoint.1 c hc
  · exact fun u hu => h.timeouts u (by simp only [List.cons_append, List.mem_cons, hu, or_true])
  · have hdistinct := h.distinct
    rw [List.cons_append, List.map_cons, List.nodup_cons] at hdistinct
    exact hdistinct.2

/-- The first event of the pending list is taken out of it. -/
theorem Holds.removeFromList_pending {p : Timer β} (h : s.Holds ts (p :: ps)) :
    ∃ s', s.removeFromList p.node = some s' ∧ s'.Holds ts ps := by
  have hring : s.links.IsRing .pendingList ([] ++ p.node :: ps.map Timer.node) := h.pending
  obtain ⟨links, hunlink, hpending, hagree⟩ := hring.unlink
  refine ⟨{ s with links := links }, congrArg (Option.map _) hunlink, ⟨?_, hpending, ?_, ?_⟩⟩
  · exact hagree.isRing h.timers fun c hc => h.disjoint.2 c hc
  · intro t ht
    refine h.timeouts t ?_
    simp only [List.mem_append, List.mem_cons] at ht ⊢
    tauto
  · have hdistinct := h.distinct
    rw [List.map_append, List.map_cons, List.nodup_middle, List.nodup_cons] at hdistinct
    rw [List.map_append]
    exact hdistinct.2

/-- A timer that is in neither list is put at the end of the pending list. -/
theorem Holds.addToList_pending {t : Timer β} (h : s.Holds ts ps)
    (ht : t.event ∉ (ts ++ ps).map Timer.event) (htimeout : s.timeout t.node = t.timeout) :
    ∃ s', s.addToList t.node .pendingList = some s' ∧ s'.Holds ts (ps ++ [t]) := by
  have hevents : t.event ∉ ts.map Timer.event ∧ t.event ∉ ps.map Timer.event := by
    rw [List.map_append, List.mem_append, not_or] at ht
    exact ht
  have hring : s.links.IsRing .pendingList (ps.map Timer.node ++ []) := by
    rw [List.append_nil]
    exact h.pending
  have hoff : t.node ∉ Node.pendingList :: (ps.map Timer.node ++ []) := by
    rw [List.append_nil]
    exact event_notMem nofun hevents.2
  obtain ⟨links, hinsert, hpending, hagree⟩ := hring.insertBefore hoff
  refine ⟨{ s with links := links }, congrArg (Option.map _) hinsert, ⟨?_, ?_, ?_, ?_⟩⟩
  · refine hagree.isRing h.timers fun c hc hmem => ?_
    rw [List.append_nil] at hmem
    rcases List.mem_cons.mp hmem with rfl | hmem
    · exact event_notMem (by nofun) hevents.1 hc
    · exact h.disjoint.2 c hc hmem
  · rw [List.map_append]
    exact hpending
  · intro u hu
    rw [← List.append_assoc] at hu
    rcases List.mem_append.mp hu with hu | hu
    · exact h.timeouts u hu
    · rw [List.mem_singleton.mp hu]
      exact htimeout
  · rw [← List.append_assoc, List.map_append, List.map_singleton, List.nodup_append]
    refine ⟨h.distinct, List.nodup_singleton _, fun e he e' he' => ?_⟩
    rw [List.mem_singleton.mp he']
    rintro rfl
    exact ht he

/-- The first timer goes to the end of the pending list. -/
theorem Holds.moveToPending {t : Timer β} (h : s.Holds (t :: ts) ps) :
    ∃ s₁ s₂, s.removeFromList t.node = some s₁ ∧ s₁.addToList t.node .pendingList = some s₂ ∧
      s₂.Holds ts (ps ++ [t]) := by
  obtain ⟨s₁, hremove, hs₁, htimeout⟩ := h.removeFromList_timers
  have hdistinct := h.distinct
  rw [List.cons_append, List.map_cons, List.nodup_cons] at hdistinct
  obtain ⟨s₂, hadd, hs₂⟩ := hs₁.addToList_pending hdistinct.1
    (by rw [htimeout]; exact h.timeouts t (by simp))
  exact ⟨s₁, s₂, hremove, hadd, hs₂⟩

/-- The timers in front that are before `now` go to the end of the pending list. -/
theorem Holds.expireFrom (now : Timeval) : ∀ (ts : List (Timer β)) (fuel : Nat) (s : State β)
    (ps : List (Timer β)), s.Holds ts ps → ts.length < fuel →
    ∃ s', State.expireFrom now fuel s (firstNode ts .timerList) =
        some (s', (ts.takeWhile (Timer.due now)).map Timer.node) ∧
      s'.Holds (ts.dropWhile (Timer.due now))
        (ps ++ ts.takeWhile (Timer.due now))
  | _, 0, _, _, _, hfuel => by omega
  | [], fuel + 1, s, ps, h, _ =>
    ⟨s, by simp [State.expireFrom, firstNode], by simpa using h⟩
  | t :: ts, fuel + 1, s, ps, h, hfuel => by
    obtain ⟨hnext, _⟩ := h.timers.rest.next_eq
    have htimeout := h.timeouts t (by simp)
    have hne : t.node ≠ .timerList := nofun
    have hfirst : firstNode (t :: ts) .timerList = t.node := rfl
    rw [hfirst, State.expireFrom, htimeout, Timer.timercmp_eq_due]
    by_cases hdue : t.due now = true
    · obtain ⟨s₁, s', hremove, hadd, hs'⟩ := h.moveToPending
      obtain ⟨s'', hrest, hs''⟩ := Holds.expireFrom now ts fuel s' (ps ++ [t]) hs'
        (by simpa using hfuel)
      have hcond : (t.node != .timerList && t.due now) = true := by simp [hne, hdue]
      rw [if_pos hcond, hnext, List.takeWhile_cons_of_pos hdue, List.dropWhile_cons_of_pos hdue]
      refine ⟨s'', ?_, by simpa using hs''⟩
      rw [firstNode] at hrest
      simp only [Option.bind_eq_bind, Option.bind_some, hremove, hadd, hrest]
      rfl
    · have hcond : ¬ (t.node != .timerList && t.due now) = true := by simp [hdue]
      rw [if_neg hcond, List.takeWhile_cons_of_neg hdue, List.dropWhile_cons_of_neg hdue]
      exact ⟨s, rfl, by simpa using h⟩

theorem Holds.processTimeouts (h : s.Holds ts ps) (now : Timeval) {fuel : Nat}
    (hfuel : ts.length < fuel) :
    ∃ s', s.processTimeouts now fuel =
        some (s', (ts.takeWhile (Timer.due now)).map Timer.node) ∧
      s'.Holds (ts.dropWhile (Timer.due now))
        (ps ++ ts.takeWhile (Timer.due now)) := by
  rw [State.processTimeouts, h.timers.next_eq]
  exact h.expireFrom now ts fuel s ps hfuel

/-- The event at the head of the pending list leaves it, and the next one is known. -/
theorem Holds.fire {p : Timer β} (h : s.Holds ts (p :: ps)) :
    ∃ s', s.fire p.node = some (s', firstNode ps .pendingList) ∧ s'.Holds ts ps := by
  obtain ⟨s', hremove, hs'⟩ := h.removeFromList_pending
  obtain ⟨hnext, _⟩ := h.pending.rest.next_eq
  refine ⟨s', ?_, hs'⟩
  rw [State.fire, hnext]
  simp only [Option.bind_eq_bind, Option.bind_some, hremove]
  rfl

end State
end RilEvent
end Huashan
