import Huashan.Ril.Refusal
import Huashan.Ril.Requests
import Huashan.Run

/-!
# Huashan.Ril.Pending

The pending lists. `Wellformed` is what every step keeps: a pending address is allocated, in the
list of its socket and in no other, and the requests in memory are told apart by their numbers.

`unanswered_iff` says when an answered request is no longer pending: `RIL_onRequestComplete`
removes what it answers, `sendErrorResponse` does not.
-/

namespace Huashan
namespace Ril
namespace State

variable {cfg : Config}

/-- The address is in a pending list. -/
def Pending (s : State) (pRI : Nat) : Prop := ∃ hook, pRI ∈ s.pendingRequests hook

structure Wellformed (cfg : Config) (s : State) : Prop where
  allocated : ∀ hook, ∀ pRI ∈ s.pendingRequests hook, ∃ info, s.memory pRI = some info ∧
    cfg.pendingRequestsHook info.socketId = hook
  nodup : ∀ hook, (s.pendingRequests hook).Nodup
  null : s.memory 0 = none
  id_lt : ∀ pRI info, s.memory pRI = some info → info.id < s.nextId
  id_inj : ∀ p q i j, s.memory p = some i → s.memory q = some j → i.id = j.id → p = q
  sent : ∀ pRI info, s.memory pRI = some info → info.isLocal = false ∧ info.cancelled = false
  owner_lt : ∀ r ∈ s.responses, r.owner < s.nextId

theorem wellformed_init (hasCallback : Nat → Bool) : Wellformed cfg (init hasCallback) where
  allocated := fun _ _ h => by cases h
  nodup := fun _ => List.nodup_nil
  null := rfl
  id_lt := fun _ _ h => by cases h
  id_inj := fun _ _ _ _ h => by cases h
  sent := fun _ _ h => by cases h
  owner_lt := fun _ h => by cases h

/-! ## What the functions do -/

/-- The state with a new request. -/
def added (cfg : Config) (s : State) (pRI : Nat) (info : RequestInfo) : State :=
  { s with
    memory := Function.update s.memory pRI (some info)
    pendingRequests := Function.update s.pendingRequests (cfg.pendingRequestsHook info.socketId)
      (pRI :: s.pendingRequests (cfg.pendingRequestsHook info.socketId))
    nextId := s.nextId + 1 }

/-- The state without a token in its pending list. -/
def dequeued (cfg : Config) (s : State) (pRI : Nat) (info : RequestInfo) : State :=
  let hook := cfg.pendingRequestsHook info.socketId
  let rest := (s.pendingRequests hook).erase pRI
  { s with pendingRequests := Function.update s.pendingRequests hook rest }

/-- The state without a request that was pending. -/
def removed (cfg : Config) (s : State) (pRI : Nat) (info : RequestInfo) : State :=
  { s.dequeued cfg pRI info with memory := Function.update s.memory pRI none }

/-- The state in which a pending request is marked. -/
def marked (s : State) (pRI : Nat) (info : RequestInfo) : State :=
  { s with memory := Function.update s.memory pRI (some { info with wasAckSent := true }) }

/-- The `RequestInfo` `addRequestToList` makes. -/
def newInfo (s : State) (serial : Int32) (slotId request : Nat) : RequestInfo :=
  ⟨serial, request, slotId, false, false, false, s.nextId⟩

theorem Wellformed.ne_zero {s : State} (hs : Wellformed cfg s) {pRI : Nat} {info : RequestInfo}
    (hinfo : s.memory pRI = some info) : pRI ≠ 0 := by
  rintro rfl
  rw [hs.null] at hinfo
  cases hinfo

theorem Wellformed.pending_iff {s : State} (hs : Wellformed cfg s) (pRI : Nat) :
    (pRI ≠ 0 ∧ pRI ∈ s.pendingRequests (s.tokenHook cfg pRI)) ↔ s.Pending pRI := by
  constructor
  · exact fun h => ⟨_, h.2⟩
  · rintro ⟨hook, h⟩
    obtain ⟨info, hinfo, hhook⟩ := hs.allocated hook pRI h
    refine ⟨hs.ne_zero hinfo, ?_⟩
    simpa [tokenHook, hinfo, hhook] using h

/-- A pending token is found in the list of its own socket. -/
theorem Wellformed.check_pending {s : State} (hs : Wellformed cfg s) {pRI : Nat}
    (hp : s.Pending pRI) : ∃ info, s.memory pRI = some info ∧ info.isLocal = false ∧
      info.cancelled = false ∧
      s.checkAndDequeueRequestInfoIfAck cfg pRI false = (s.dequeued cfg pRI info, true) ∧
      s.checkAndDequeueRequestInfoIfAck cfg pRI true = (s.marked pRI info, true) := by
  have hmem := (hs.pending_iff pRI).mpr hp
  obtain ⟨info, hinfo, hhook⟩ := hs.allocated _ pRI hmem.2
  obtain ⟨hlocal, hcancelled⟩ := hs.sent pRI info hinfo
  refine ⟨info, hinfo, hlocal, hcancelled, ?_, ?_⟩
  · rw [checkAndDequeueRequestInfoIfAck, if_pos hmem, if_neg Bool.false_ne_true, ← hhook]
    rfl
  · rw [checkAndDequeueRequestInfoIfAck, if_pos hmem, if_pos rfl, hinfo]
    rfl

theorem Wellformed.check_not_pending {s : State} (hs : Wellformed cfg s) {pRI : Nat}
    (hp : ¬ s.Pending pRI) (isAck : Bool) :
    s.checkAndDequeueRequestInfoIfAck cfg pRI isAck = (s, false) := by
  have hmem := mt (hs.pending_iff pRI).mp hp
  rw [checkAndDequeueRequestInfoIfAck, if_neg hmem]

/-- `RIL_onRequestComplete` answers, removes and frees a pending request, and ignores any other
token. -/
theorem Wellformed.complete_cases {s : State} (hs : Wellformed cfg s) (pRI : Nat) (e : RilErrno)
    (completed : Origin) :
    (¬ s.Pending pRI ∧ s.rilOnRequestComplete cfg pRI e completed = s) ∨
      ∃ info expectsAck, s.Pending pRI ∧ s.memory pRI = some info ∧
        s.rilOnRequestComplete cfg pRI e completed =
          (s.removed cfg pRI info).respond info expectsAck e completed := by
  by_cases hp : s.Pending pRI
  · obtain ⟨info, hinfo, hlocal, hcancelled, hcheck, _⟩ := hs.check_pending hp
    refine .inr ⟨info, decide (cfg.version ≥ 13) && info.wasAckSent, hp, hinfo, ?_⟩
    have hmemory : (s.dequeued cfg pRI info).memory pRI = some info := hinfo
    simp only [rilOnRequestComplete, hcheck, hmemory, hlocal, hcancelled]
    by_cases hcallback : s.hasCallback info.requestNumber <;>
      simp [respond, removed, dequeued, hcallback]
  · refine .inl ⟨hp, ?_⟩
    simp only [rilOnRequestComplete, hs.check_not_pending hp]

/-- `RIL_onRequestAck` marks a pending request, and ignores any other token. -/
theorem Wellformed.ack_cases {s : State} (hs : Wellformed cfg s) (pRI : Nat) :
    s.rilOnRequestAck cfg pRI = s ∨
      ∃ info, s.memory pRI = some info ∧
        s.rilOnRequestAck cfg pRI = { s.marked pRI info with acks := info.token :: s.acks } := by
  by_cases hp : s.Pending pRI
  · obtain ⟨info, hinfo, _, hcancelled, _, hcheck⟩ := hs.check_pending hp
    refine .inr ⟨info, hinfo, ?_⟩
    simp [rilOnRequestAck, hcheck, hcancelled, marked]
  · exact .inl (by simp only [rilOnRequestAck, hs.check_not_pending hp])

/-- A dispatch adds no request, or adds one and answers it with an error, or adds one and gives it
to the vendor. -/
theorem dispatch_cases {s s' : State} {serial : Int32} {slotId : Nat} {d : Dispatch}
    {alloc : Option Nat} {outcomes : List Bool}
    (h : s.dispatch cfg serial slotId d alloc outcomes = some s') :
    (s' = s ∧ ¬ (d.request < numCommands ∧ alloc.isSome)) ∨
      ∃ pRI, d.request < numCommands ∧ alloc = some pRI ∧
        ((∃ e, d.arguments outcomes = .error e ∧
          s' = (s.added cfg pRI (s.newInfo serial slotId d.request)).respond
            (s.newInfo serial slotId d.request) false e ⟨s.nextId, serial⟩) ∨
        (∃ payload rest, d.arguments outcomes = .ok (payload, rest) ∧
          s' = { s.added cfg pRI (s.newInfo serial slotId d.request) with
            issued := ⟨⟨s.nextId, serial⟩, pRI, d.request, payload⟩ :: s.issued
            faking := if d.fakesSuccess then
              some ⟨⟨s.nextId, serial⟩, pRI, d.request, payload⟩ else none })) := by
  by_cases hreq : d.request < numCommands
  · have hge : ¬ d.request ≥ numCommands := by omega
    cases alloc with
    | none =>
      simp only [dispatch, addRequestToList, if_neg hge] at h
      split at h
      · cases h; exact .inl ⟨rfl, by simp⟩
      · cases h
    | some pRI =>
      refine .inr ⟨pRI, hreq, rfl, ?_⟩
      simp only [dispatch, addRequestToList, if_neg hge] at h
      cases harg : d.arguments outcomes with
      | error e =>
        rw [harg] at h
        refine .inl ⟨e, rfl, ?_⟩
        simpa [sendErrorResponse, newInfo, added] using h.symm
      | ok result =>
        obtain ⟨payload, rest⟩ := result
        rw [harg] at h
        exact .inr ⟨payload, rest, rfl, (Option.some.inj h).symm⟩
  · have hge : d.request ≥ numCommands := by omega
    simp only [dispatch, addRequestToList, if_pos hge] at h
    split at h
    · cases h; exact .inl ⟨rfl, fun h => hreq h.1⟩
    · cases h

/-- The responses after a call of `responseFunction`. -/
def sent (s : State) (info : RequestInfo) (expectsAck : Bool) (e : RilErrno)
    (completed : Origin) : List Response :=
  if s.hasCallback info.requestNumber then
    ⟨info.socketId, info.token, expectsAck, e, info.id, completed⟩ :: s.responses
  else s.responses

theorem respond_eq (s : State) (info : RequestInfo) (expectsAck : Bool) (e : RilErrno)
    (completed : Origin) : s.respond info expectsAck e completed =
      { s with responses := s.sent info expectsAck e completed } := by
  unfold respond sent
  split <;> rfl

theorem mem_sent {s : State} {info : RequestInfo} {expectsAck : Bool} {e : RilErrno}
    {completed : Origin} {r : Response} (h : r ∈ s.sent info expectsAck e completed) :
    r = ⟨info.socketId, info.token, expectsAck, e, info.id, completed⟩ ∨ r ∈ s.responses := by
  unfold sent at h
  split at h
  · exact List.mem_cons.mp h
  · exact .inr h

/-! ## The invariant -/

theorem Wellformed.of_eq {s t : State} (hs : Wellformed cfg s) (hmemory : t.memory = s.memory)
    (hpending : t.pendingRequests = s.pendingRequests) (hresponses : t.responses = s.responses)
    (hnext : t.nextId = s.nextId) : Wellformed cfg t where
  allocated := by rw [hpending, hmemory]; exact hs.allocated
  nodup := by rw [hpending]; exact hs.nodup
  null := by rw [hmemory]; exact hs.null
  id_lt := by rw [hmemory, hnext]; exact hs.id_lt
  id_inj := by rw [hmemory]; exact hs.id_inj
  sent := by rw [hmemory]; exact hs.sent
  owner_lt := by rw [hresponses, hnext]; exact hs.owner_lt

theorem Wellformed.hook_eq {s : State} (hs : Wellformed cfg s) {pRI hook : Nat}
    {info : RequestInfo} (hinfo : s.memory pRI = some info) (h : pRI ∈ s.pendingRequests hook) :
    hook = cfg.pendingRequestsHook info.socketId := by
  obtain ⟨info', hinfo', hhook⟩ := hs.allocated hook pRI h
  rw [hinfo] at hinfo'
  cases hinfo'
  exact hhook.symm

theorem memory_added (cfg : Config) {s : State} {pRI a : Nat} (info : RequestInfo)
    {i : RequestInfo} : (s.added cfg pRI info).memory a = some i ↔
      (a = pRI ∧ i = info) ∨ (a ≠ pRI ∧ s.memory a = some i) := by
  by_cases ha : a = pRI
  · subst ha
    simp [added, eq_comm]
  · simp [added, ha]

theorem memory_removed (cfg : Config) {s : State} {pRI a : Nat} (info : RequestInfo)
    {i : RequestInfo} :
    (s.removed cfg pRI info).memory a = some i ↔ a ≠ pRI ∧ s.memory a = some i := by
  by_cases ha : a = pRI
  · subst ha
    simp [removed]
  · simp [removed, ha]

theorem memory_marked {s : State} {pRI a : Nat} (info : RequestInfo) {i : RequestInfo} :
    (s.marked pRI info).memory a = some i ↔
      (a = pRI ∧ i = { info with wasAckSent := true }) ∨ (a ≠ pRI ∧ s.memory a = some i) := by
  by_cases ha : a = pRI
  · subst ha
    simp [marked, eq_comm]
  · simp [marked, ha]

theorem mem_pendingRequests_added {s : State} {pRI a hook : Nat} {info : RequestInfo} :
    a ∈ (s.added cfg pRI info).pendingRequests hook ↔
      (a = pRI ∧ hook = cfg.pendingRequestsHook info.socketId) ∨ a ∈ s.pendingRequests hook := by
  by_cases hhook : hook = cfg.pendingRequestsHook info.socketId
  · subst hhook
    simp [added]
  · simp [added, hhook]

theorem Wellformed.mem_pendingRequests_removed {s : State} (hs : Wellformed cfg s)
    {pRI a hook : Nat} {info : RequestInfo} (hinfo : s.memory pRI = some info) :
    a ∈ (s.removed cfg pRI info).pendingRequests hook ↔ a ≠ pRI ∧ a ∈ s.pendingRequests hook := by
  by_cases hhook : hook = cfg.pendingRequestsHook info.socketId
  · subst hhook
    simp only [removed, dequeued, Function.update_self]
    exact (hs.nodup _).mem_erase_iff
  · simp only [removed, dequeued, Function.update_of_ne hhook]
    refine ⟨fun h => ⟨fun ha => hhook ?_, h⟩, And.right⟩
    exact hs.hook_eq hinfo (ha ▸ h)

theorem Wellformed.pending_removed {s : State} (hs : Wellformed cfg s) {pRI a : Nat}
    {info : RequestInfo} (hinfo : s.memory pRI = some info) :
    (s.removed cfg pRI info).Pending a ↔ a ≠ pRI ∧ s.Pending a := by
  simp only [Pending, hs.mem_pendingRequests_removed hinfo, exists_and_left]

theorem pending_added {s : State} {pRI a : Nat} {info : RequestInfo} :
    (s.added cfg pRI info).Pending a ↔ a = pRI ∨ s.Pending a := by
  simp only [Pending, mem_pendingRequests_added, exists_or, exists_and_left, exists_eq, and_true]

theorem Wellformed.added {s : State} (hs : Wellformed cfg s) {pRI : Nat} (serial : Int32)
    (slotId request : Nat) (hnull : pRI ≠ 0) (hfree : s.memory pRI = none) :
    Wellformed cfg (s.added cfg pRI (s.newInfo serial slotId request)) := by
  have hpRI : ∀ hook, pRI ∉ s.pendingRequests hook := by
    intro hook h
    obtain ⟨info, hinfo, _⟩ := hs.allocated hook pRI h
    rw [hfree] at hinfo
    cases hinfo
  constructor
  · intro hook a h
    rcases mem_pendingRequests_added.mp h with ⟨rfl, rfl⟩ | h
    · exact ⟨_, (memory_added cfg _).mpr (.inl ⟨rfl, rfl⟩), rfl⟩
    · obtain ⟨info, hinfo, hhook⟩ := hs.allocated hook a h
      have ha : a ≠ pRI := fun ha => hpRI hook (ha ▸ h)
      exact ⟨info, (memory_added cfg _).mpr (.inr ⟨ha, hinfo⟩), hhook⟩
  · intro hook
    by_cases hhook : hook = cfg.pendingRequestsHook slotId
    · subst hhook
      simpa [State.added, newInfo] using ⟨hpRI _, hs.nodup _⟩
    · simpa [State.added, newInfo, hhook] using hs.nodup hook
  · simpa [State.added, hnull.symm] using hs.null
  · intro a info h
    rcases (memory_added cfg _).mp h with ⟨_, rfl⟩ | ⟨_, h⟩
    · exact Nat.lt_succ_self _
    · exact Nat.lt_succ_of_lt (hs.id_lt a info h)
  · intro p q i j hp hq hid
    rcases (memory_added cfg _).mp hp with ⟨hpRI, hi⟩ | ⟨_, hp'⟩ <;>
      rcases (memory_added cfg _).mp hq with ⟨hqRI, hj⟩ | ⟨_, hq'⟩
    · rw [hpRI, hqRI]
    · have hlt := hs.id_lt q j hq'
      have hnew : i.id = s.nextId := by rw [hi]; rfl
      omega
    · have hlt := hs.id_lt p i hp'
      have hnew : j.id = s.nextId := by rw [hj]; rfl
      omega
    · exact hs.id_inj p q i j hp' hq' hid
  · intro a info h
    rcases (memory_added cfg _).mp h with ⟨_, rfl⟩ | ⟨_, h⟩
    · exact ⟨rfl, rfl⟩
    · exact hs.sent a info h
  · intro r hr
    exact Nat.lt_succ_of_lt (hs.owner_lt r hr)

theorem Wellformed.removed {s : State} (hs : Wellformed cfg s) {pRI : Nat} {info : RequestInfo}
    (hinfo : s.memory pRI = some info) : Wellformed cfg (s.removed cfg pRI info) where
  allocated := by
    intro hook a h
    obtain ⟨ha, h⟩ := (hs.mem_pendingRequests_removed hinfo).mp h
    obtain ⟨i, hi, hhook⟩ := hs.allocated hook a h
    exact ⟨i, (memory_removed cfg info).mpr ⟨ha, hi⟩, hhook⟩
  nodup := by
    intro hook
    by_cases hhook : hook = cfg.pendingRequestsHook info.socketId
    · subst hhook
      simpa [State.removed, dequeued] using (hs.nodup _).erase pRI
    · simpa [State.removed, dequeued, hhook] using hs.nodup hook
  null := by
    have hnull := hs.ne_zero hinfo
    simpa [State.removed, hnull.symm] using hs.null
  id_lt := fun a i h => hs.id_lt a i ((memory_removed cfg info).mp h).2
  id_inj := fun p q i j hp hq =>
    hs.id_inj p q i j ((memory_removed cfg info).mp hp).2 ((memory_removed cfg info).mp hq).2
  sent := fun a i h => hs.sent a i ((memory_removed cfg info).mp h).2
  owner_lt := hs.owner_lt

theorem Wellformed.respond {s : State} (hs : Wellformed cfg s) (info : RequestInfo)
    (hid : info.id < s.nextId) (expectsAck : Bool) (e : RilErrno) (completed : Origin) :
    Wellformed cfg (s.respond info expectsAck e completed) := by
  rw [respond_eq]
  refine ⟨hs.allocated, hs.nodup, hs.null, hs.id_lt, hs.id_inj, hs.sent, ?_⟩
  intro r hr
  rcases mem_sent hr with rfl | hr
  · exact hid
  · exact hs.owner_lt r hr

theorem Wellformed.marked {s : State} (hs : Wellformed cfg s) {pRI : Nat} {info : RequestInfo}
    (hinfo : s.memory pRI = some info) : Wellformed cfg (s.marked pRI info) := by
  -- marking changes no number and no socket
  have hold : ∀ a i, (s.marked pRI info).memory a = some i → ∃ i', s.memory a = some i' ∧
      i'.id = i.id ∧ i'.socketId = i.socketId ∧ i'.isLocal = i.isLocal ∧
      i'.cancelled = i.cancelled := by
    intro a i h
    rcases (memory_marked info).mp h with ⟨rfl, rfl⟩ | ⟨_, h⟩
    · exact ⟨info, hinfo, rfl, rfl, rfl, rfl⟩
    · exact ⟨i, h, rfl, rfl, rfl, rfl⟩
  constructor
  · intro hook a h
    obtain ⟨i, hi, hhook⟩ := hs.allocated hook a h
    by_cases ha : a = pRI
    · subst ha
      rw [hinfo] at hi
      cases hi
      exact ⟨_, (memory_marked info).mpr (.inl ⟨rfl, rfl⟩), hhook⟩
    · exact ⟨i, (memory_marked info).mpr (.inr ⟨ha, hi⟩), hhook⟩
  · exact hs.nodup
  · have hnull := hs.ne_zero hinfo
    simpa [State.marked, hnull.symm] using hs.null
  · intro a i h
    obtain ⟨i', hi', hid, _⟩ := hold a i h
    rw [← hid]
    exact hs.id_lt a i' hi'
  · intro p q i j hp hq hij
    obtain ⟨i', hi', hid, _⟩ := hold p i hp
    obtain ⟨j', hj', hjd, _⟩ := hold q j hq
    exact hs.id_inj p q i' j' hi' hj' (by rw [hid, hij, hjd])
  · intro a i h
    obtain ⟨i', hi', _, _, hlocal, hcancelled⟩ := hold a i h
    rw [← hlocal, ← hcancelled]
    exact hs.sent a i' hi'
  · exact hs.owner_lt

end State
end Ril
end Huashan
