import Huashan.Ril.Answered

/-!
# Huashan.Ril.Completion

Which request a completion is delivered to. Tokens are addresses, so a completion that comes after
its request is gone meets whatever request has the address by then. `Tracked` says that every
request the vendor has still to complete is pending at its own address; only the requests
completed by the fake success of `dispatchStrings` are not.
-/

namespace Huashan
namespace Ril
namespace State

variable {cfg : Config}

/-- Every response is the one of the completed request, and no request has two. -/
structure Delivered (s : State) : Prop where
  serial : ∀ r ∈ s.responses, r.serial = r.completed.serial
  owner : ∀ r ∈ s.responses, r.owner = r.completed.id
  once : (s.responses.map Response.owner).Nodup

/-- The vendor completes a request that its fake success has completed, after the address went to
another pending request. -/
def CompletesStale (s : State) : Event → Prop
  | .complete call _ => call.origin.id ∈ s.faked ∧ s.Pending call.address
  | _ => False

/-- The vendor has the request, and no fake success has completed it. -/
def Outstanding (s : State) (call : Issued) : Prop :=
  call ∈ s.issued ∧ call.origin.id ∉ s.faked

structure Tracked (cfg : Config) (s : State) : Prop where
  wellformed : Wellformed cfg s
  delivered : s.Delivered
  outstanding : ∀ c, s.Outstanding c → s.Pending c.address ∧ ∃ info,
    s.memory c.address = some info ∧ info.id = c.origin.id ∧ info.token = c.origin.serial
  unanswered : ∀ c, s.Outstanding c → ∀ r ∈ s.responses, r.owner ≠ c.origin.id
  issued_nodup : (s.issued.map (·.origin.id)).Nodup
  issued_lt : ∀ c ∈ s.issued, c.origin.id < s.nextId
  faked_lt : ∀ i ∈ s.faked, i < s.nextId
  faking_lt : ∀ c, s.faking = some c → c.origin.id < s.nextId
  faking : ∀ c, s.faking = some c → s.Outstanding c ∨ ¬ s.Pending c.address

theorem tracked_init (hasCallback : Nat → Bool) : Tracked cfg (init hasCallback) where
  wellformed := wellformed_init hasCallback
  delivered := by
    constructor
    · intro r hr; cases hr
    · intro r hr; cases hr
    · exact List.nodup_nil
  outstanding := fun _ h => by cases h.1
  unanswered := fun _ h => by cases h.1
  issued_nodup := List.nodup_nil
  issued_lt := fun _ h => by cases h
  faked_lt := fun _ h => by cases h
  faking_lt := fun _ h => by cases h
  faking := fun _ h => by cases h

theorem Delivered.respond {s : State} (hs : s.Delivered) (info : RequestInfo) (completed : Origin)
    (hserial : info.token = completed.serial) (hid : info.id = completed.id)
    (hnew : ∀ r ∈ s.responses, r.owner ≠ info.id) (expectsAck : Bool) (e : RilErrno) :
    (s.respond info expectsAck e completed).Delivered := by
  rw [respond_eq]
  constructor
  · intro r hr
    rcases mem_sent hr with rfl | hr
    · exact hserial
    · exact hs.serial r hr
  · intro r hr
    rcases mem_sent hr with rfl | hr
    · exact hid
    · exact hs.owner r hr
  · unfold sent
    split
    · rw [List.map_cons, List.nodup_cons]
      refine ⟨fun h => ?_, hs.once⟩
      obtain ⟨r, hr, howner⟩ := List.mem_map.mp h
      exact hnew r hr howner
    · exact hs.once

theorem Delivered.of_eq {s t : State} (hs : s.Delivered) (h : t.responses = s.responses) :
    t.Delivered := by
  constructor <;> rw [h]
  · exact hs.serial
  · exact hs.owner
  · exact hs.once

/-- Two calls that are in the hands of the vendor at once belong to different requests. -/
theorem Tracked.id_ne_of_mem_erase {s : State} (hs : Tracked cfg s) {call c : Issued}
    (hcall : call ∈ s.issued) (hc : c ∈ s.issued.erase call) : c.origin.id ≠ call.origin.id := by
  have hperm := (List.perm_cons_erase hcall).map (·.origin.id)
  have hnodup := hperm.nodup_iff.mp hs.issued_nodup
  rw [List.map_cons, List.nodup_cons] at hnodup
  intro hid
  exact hnodup.1 (hid ▸ List.mem_map_of_mem hc)

/-! ## What keeps the invariant -/

/-- Requests can leave the hands of the vendor. -/
theorem Tracked.of_subset {s t : State} (hs : Tracked cfg s) (hmemory : t.memory = s.memory)
    (hpending : t.pendingRequests = s.pendingRequests) (hresponses : t.responses = s.responses)
    (hnext : t.nextId = s.nextId) (hissued : t.issued.Sublist s.issued)
    (hout : ∀ c, t.Outstanding c → s.Outstanding c) (hfaked : ∀ i ∈ t.faked, i < s.nextId)
    (hlt : ∀ c, t.faking = some c → c.origin.id < s.nextId)
    (hfaking : ∀ c, t.faking = some c → t.Outstanding c ∨ ¬ s.Pending c.address) :
    Tracked cfg t where
  wellformed := hs.wellformed.of_eq hmemory hpending hresponses hnext
  delivered := hs.delivered.of_eq hresponses
  outstanding := by
    intro c hc
    unfold Pending
    rw [hmemory, hpending]
    exact hs.outstanding c (hout c hc)
  unanswered := by
    intro c hc
    rw [hresponses]
    exact hs.unanswered c (hout c hc)
  issued_nodup := hs.issued_nodup.sublist (hissued.map _)
  issued_lt := by
    intro c hc
    rw [hnext]
    exact hs.issued_lt c (hissued.subset hc)
  faked_lt := by rwa [hnext]
  faking_lt := by rwa [hnext]
  faking := by
    unfold Pending
    rw [hpending]
    exact hfaking

/-- An outstanding request is answered and removed. -/
theorem Tracked.answer {s t : State} (hs : Tracked cfg s) {call : Issued} (info : RequestInfo)
    (expectsAck : Bool) (e : RilErrno) (hcall : s.Outstanding call)
    (hinfo : s.memory call.address = some info)
    (hstate : t = { (s.removed cfg call.address info).respond info expectsAck e call.origin with
      issued := t.issued, faking := t.faking, faked := t.faked })
    (hissued : t.issued.Sublist s.issued)
    (hout : ∀ c, t.Outstanding c → s.Outstanding c ∧ c.origin.id ≠ call.origin.id)
    (hfaked : ∀ i ∈ t.faked, i < s.nextId)
    (hlt : ∀ c, t.faking = some c → c.origin.id < s.nextId)
    (hfaking : ∀ c, t.faking = some c →
      t.Outstanding c ∨ c.address = call.address ∨ ¬ s.Pending c.address) : Tracked cfg t := by
  have hwf := hs.wellformed
  obtain ⟨_, info', hinfo', hid, htoken⟩ := hs.outstanding call hcall
  have hsame : info' = info := Option.some.inj (hinfo'.symm.trans hinfo)
  subst hsame
  have hnew : ∀ r ∈ (s.removed cfg call.address info').responses, r.owner ≠ info'.id := by
    intro r hr
    rw [hid]
    exact hs.unanswered call hcall r hr
  have hremoved : (s.removed cfg call.address info').Delivered := hs.delivered.of_eq rfl
  have hwf' := (hwf.removed hinfo).respond info' (hwf.id_lt _ _ hinfo) expectsAck e call.origin
  have hdelivered := hremoved.respond info' call.origin htoken hid hnew expectsAck e
  rw [respond_eq] at hstate hwf' hdelivered
  have hpending : ∀ a, t.Pending a ↔ a ≠ call.address ∧ s.Pending a := by
    intro a
    rw [hstate]
    exact hwf.pending_removed hinfo
  have hmemory : ∀ a i, t.memory a = some i ↔ a ≠ call.address ∧ s.memory a = some i := by
    intro a i
    rw [hstate]
    exact memory_removed cfg info'
  have hnext : t.nextId = s.nextId := by rw [hstate]; rfl
  constructor
  · rw [hstate]
    exact hwf'.of_eq rfl rfl rfl rfl
  · rw [hstate]
    exact hdelivered.of_eq rfl
  · intro c hc
    obtain ⟨hc, hne⟩ := hout c hc
    obtain ⟨hp, i, hi, hci, hct⟩ := hs.outstanding c hc
    have haddress : c.address ≠ call.address := by
      intro haddress
      rw [haddress, hinfo] at hi
      cases hi
      exact hne (hci.symm.trans hid)
    exact ⟨(hpending _).mpr ⟨haddress, hp⟩, i, (hmemory _ _).mpr ⟨haddress, hi⟩, hci, hct⟩
  · intro c hc r hr
    obtain ⟨hc, hne⟩ := hout c hc
    rw [hstate] at hr
    rcases mem_sent hr with rfl | hr
    · rw [hid]
      exact hne.symm
    · exact hs.unanswered c hc r hr
  · exact hs.issued_nodup.sublist (hissued.map _)
  · intro c hc
    rw [hnext]
    exact hs.issued_lt c (hissued.subset hc)
  · rwa [hnext]
  · rwa [hnext]
  · intro c hc
    rw [hpending, not_and_or, not_not]
    exact hfaking c hc

/-- What is pending and outstanding is at another address than a new request. -/
theorem Tracked.outstanding_added {s : State} (hs : Tracked cfg s) {pRI : Nat} {serial : Int32}
    {slotId request : Nat} (hfree : s.memory pRI = none) {c : Issued} (hc : s.Outstanding c) :
    (s.added cfg pRI (s.newInfo serial slotId request)).Pending c.address ∧ ∃ info,
      (s.added cfg pRI (s.newInfo serial slotId request)).memory c.address = some info ∧
        info.id = c.origin.id ∧ info.token = c.origin.serial := by
  obtain ⟨hp, i, hi, hid, htoken⟩ := hs.outstanding c hc
  have haddress : c.address ≠ pRI := by
    intro haddress
    rw [haddress, hfree] at hi
    cases hi
  refine ⟨pending_added.mpr (.inr hp), i, ?_, hid, htoken⟩
  exact (memory_added cfg _).mpr (.inr ⟨haddress, hi⟩)

/-- A request that is answered with an error is not given to the vendor. -/
theorem Tracked.refuse {s : State} (hs : Tracked cfg s) {pRI : Nat} {serial : Int32}
    {slotId request : Nat} {e : RilErrno} (hidle : s.faking = none) (hnull : pRI ≠ 0)
    (hfree : s.memory pRI = none) :
    Tracked cfg ((s.added cfg pRI (s.newInfo serial slotId request)).respond
      (s.newInfo serial slotId request) false e ⟨s.nextId, serial⟩) := by
  have hadded : (s.added cfg pRI (s.newInfo serial slotId request)).Delivered :=
    hs.delivered.of_eq rfl
  have hnew : ∀ r ∈ s.responses, r.owner ≠ s.nextId := fun r hr => (hs.wellformed.owner_lt r hr).ne
  have hwf := (hs.wellformed.added serial slotId request hnull hfree).respond
    (s.newInfo serial slotId request) (Nat.lt_succ_self _) false e ⟨s.nextId, serial⟩
  have hdelivered := hadded.respond (s.newInfo serial slotId request)
    ⟨s.nextId, serial⟩ rfl rfl hnew false e
  rw [respond_eq] at hwf hdelivered ⊢
  have hnone : ∀ c, s.faking ≠ some c := by simp [hidle]
  refine ⟨hwf, hdelivered, fun c hc => hs.outstanding_added hfree hc, ?_, hs.issued_nodup, ?_, ?_,
    fun c hc => absurd hc (hnone c), fun c hc => absurd hc (hnone c)⟩
  · intro c hc r hr
    rcases mem_sent hr with rfl | hr
    · exact (hs.issued_lt c hc.1).ne'
    · exact hs.unanswered c hc r hr
  · exact fun c hc => Nat.lt_succ_of_lt (hs.issued_lt c hc)
  · exact fun i hi => Nat.lt_succ_of_lt (hs.faked_lt i hi)

/-- A request that is given to the vendor has the only call with its number. -/
theorem Tracked.issue {s : State} (hs : Tracked cfg s) {pRI : Nat} {serial : Int32}
    {slotId request : Nat} {payload : Payload} {faking : Option Issued} (hnull : pRI ≠ 0)
    (hfree : s.memory pRI = none)
    (hfaking : ∀ c, faking = some c → c = ⟨⟨s.nextId, serial⟩, pRI, request, payload⟩) :
    Tracked cfg { s.added cfg pRI (s.newInfo serial slotId request) with
      issued := ⟨⟨s.nextId, serial⟩, pRI, request, payload⟩ :: s.issued
      faking := faking } := by
  have hnew : s.nextId ∉ s.faked := fun h => (hs.faked_lt _ h).ne rfl
  constructor
  · exact (hs.wellformed.added _ _ _ hnull hfree).of_eq rfl rfl rfl rfl
  · exact ⟨hs.delivered.serial, hs.delivered.owner, hs.delivered.once⟩
  · rintro c ⟨hc, hnot⟩
    rcases List.mem_cons.mp hc with rfl | hc
    · refine ⟨pending_added.mpr (.inl rfl), s.newInfo serial slotId request, ?_, rfl, rfl⟩
      exact (memory_added cfg _).mpr (.inl ⟨rfl, rfl⟩)
    · exact hs.outstanding_added hfree ⟨hc, hnot⟩
  · rintro c ⟨hc, hnot⟩ r hr
    rcases List.mem_cons.mp hc with rfl | hc
    · exact (hs.wellformed.owner_lt r hr).ne
    · exact hs.unanswered c ⟨hc, hnot⟩ r hr
  · rw [List.map_cons, List.nodup_cons]
    refine ⟨fun h => ?_, hs.issued_nodup⟩
    obtain ⟨c, hc, hid⟩ := List.mem_map.mp h
    exact (hs.issued_lt c hc).ne hid
  · intro c hc
    rcases List.mem_cons.mp hc with rfl | hc
    · exact Nat.lt_succ_self _
    · exact Nat.lt_succ_of_lt (hs.issued_lt c hc)
  · intro i hi
    exact Nat.lt_succ_of_lt (hs.faked_lt i hi)
  · intro c hc
    rw [hfaking c hc]
    exact Nat.lt_succ_self _
  · intro c hc
    rw [hfaking c hc]
    exact .inl ⟨List.mem_cons_self, hnew⟩

theorem Tracked.mark {s : State} (hs : Tracked cfg s) {pRI : Nat} {info : RequestInfo}
    (hinfo : s.memory pRI = some info) (acks : List Int32) :
    Tracked cfg { s.marked pRI info with acks := acks } := by
  refine ⟨(hs.wellformed.marked hinfo).of_eq rfl rfl rfl rfl,
    ⟨hs.delivered.serial, hs.delivered.owner, hs.delivered.once⟩, ?_, hs.unanswered,
    hs.issued_nodup, hs.issued_lt, hs.faked_lt, hs.faking_lt, hs.faking⟩
  intro c hc
  obtain ⟨hp, i, hi, hid, htoken⟩ := hs.outstanding c hc
  refine ⟨hp, ?_⟩
  by_cases haddress : c.address = pRI
  · subst haddress
    rw [hinfo] at hi
    cases hi
    exact ⟨{ info with wasAckSent := true }, by simp [marked], hid, htoken⟩
  · exact ⟨i, by simpa [marked, haddress] using hi, hid, htoken⟩

/-! ## Runs -/

theorem Tracked.complete {s : State} (hs : Tracked cfg s) {call : Issued} {e : RilErrno}
    (hcall : call ∈ s.issued) (hstale : ¬ s.CompletesStale (.complete call e)) :
    Tracked cfg (({ s with issued := s.issued.erase call }).rilOnRequestComplete cfg call.address e
      call.origin) := by
  have hissued : Wellformed cfg { s with issued := s.issued.erase call } :=
    hs.wellformed.of_eq rfl rfl rfl rfl
  rcases hissued.complete_cases call.address e call.origin with
    ⟨hp, heq⟩ | ⟨info, expectsAck, hp, hinfo, heq⟩
  · rw [heq]
    refine hs.of_subset rfl rfl rfl rfl List.erase_sublist ?_ hs.faked_lt hs.faking_lt ?_
    · exact fun c hc => ⟨List.mem_of_mem_erase hc.1, hc.2⟩
    · intro c hc
      rcases hs.faking c hc with hc | hc
      · by_cases hne : c = call
        · exact .inr (hne ▸ hp)
        · exact .inl ⟨(List.mem_erase_of_ne hne).mpr hc.1, hc.2⟩
      · exact .inr hc
  · have hout : s.Outstanding call := ⟨hcall, fun h => hstale ⟨h, hp⟩⟩
    rw [heq, respond_eq]
    refine hs.answer info expectsAck e hout hinfo ?_ List.erase_sublist ?_ hs.faked_lt
      hs.faking_lt ?_
    · rw [respond_eq]
      rfl
    · intro c hc
      exact ⟨⟨List.mem_of_mem_erase hc.1, hc.2⟩, hs.id_ne_of_mem_erase hcall hc.1⟩
    · intro c hc
      rcases hs.faking c hc with hc | hc
      · by_cases hne : c = call
        · exact .inr (.inl (hne ▸ rfl))
        · exact .inl ⟨(List.mem_erase_of_ne hne).mpr hc.1, hc.2⟩
      · exact .inr (.inr hc)

theorem Tracked.fakeSuccess {s : State} (hs : Tracked cfg s) {call : Issued}
    (hfaking : s.faking = some call) :
    Tracked cfg { s.rilOnRequestComplete cfg call.address rilESuccess call.origin with
      faking := none
      faked := call.origin.id :: s.faked } := by
  have hfaked : ∀ i ∈ call.origin.id :: s.faked, i < s.nextId := by
    intro i hi
    rcases List.mem_cons.mp hi with rfl | hi
    · exact hs.faking_lt call hfaking
    · exact hs.faked_lt i hi
  rcases hs.wellformed.complete_cases call.address rilESuccess call.origin with
    ⟨hp, heq⟩ | ⟨info, expectsAck, hp, hinfo, heq⟩
  · rw [heq]
    refine hs.of_subset rfl rfl rfl rfl (List.Sublist.refl _) ?_ hfaked (fun c hc => ?_)
      (fun c hc => ?_)
    · exact fun c hc => ⟨hc.1, fun h => hc.2 (List.mem_cons_of_mem _ h)⟩
    · cases hc
    · cases hc
  · have hcall : s.Outstanding call := (hs.faking call hfaking).resolve_right (not_not_intro hp)
    rw [heq, respond_eq]
    refine hs.answer info expectsAck rilESuccess hcall hinfo ?_ (List.Sublist.refl _) ?_ hfaked
      (fun c hc => ?_) (fun c hc => ?_)
    · rw [respond_eq]
    · intro c hc
      refine ⟨⟨hc.1, fun h => hc.2 (List.mem_cons_of_mem _ h)⟩, fun hid => hc.2 ?_⟩
      exact hid ▸ List.mem_cons_self
    · cases hc
    · cases hc

theorem Tracked.step {s s' : State} {ev : Event} (hs : Tracked cfg s)
    (hstale : ¬ s.CompletesStale ev) (h : s.step cfg ev = some s') : Tracked cfg s' := by
  cases ev with
  | request serial slotId r alloc outcomes =>
    simp only [State.step, Option.ite_none_right_eq_some] at h
    obtain ⟨⟨hidle, halloc⟩, h⟩ := h
    rcases dispatch_cases h with ⟨rfl, _⟩ | ⟨pRI, _, rfl, ⟨e, _, rfl⟩ | ⟨payload, rest, _, rfl⟩⟩
    · exact hs
    · obtain ⟨hnull, hfree⟩ := halloc pRI rfl
      exact hs.refuse hidle hnull hfree
    · obtain ⟨hnull, hfree⟩ := halloc pRI rfl
      refine hs.issue hnull hfree fun c hc => ?_
      split at hc
      · exact (Option.some.inj hc).symm
      · cases hc
  | fakeSuccess =>
    simp only [State.step] at h
    split at h
    · cases h
    · next call hfaking =>
      cases h
      exact hs.fakeSuccess hfaking
  | ack call =>
    simp only [State.step, Option.ite_none_right_eq_some, Option.some.injEq] at h
    obtain ⟨_, rfl⟩ := h
    rcases hs.wellformed.ack_cases call.address with heq | ⟨info, hinfo, heq⟩
    · rwa [heq]
    · rw [heq]
      exact hs.mark hinfo _
  | complete call e =>
    simp only [State.step, Option.ite_none_right_eq_some, Option.some.injEq] at h
    obtain ⟨hcall, rfl⟩ := h
    exact hs.complete hcall hstale
  | setCallbacks hasCallback =>
    cases h
    exact hs.of_subset rfl rfl rfl rfl (List.Sublist.refl _) (fun _ hc => hc) hs.faked_lt
      hs.faking_lt hs.faking

/-- Responses go to the requests that were completed, in every run in which the vendor does not
complete a request a second time, after its fake success, at an address that is pending again. -/
theorem delivered_of_steps (cfg : Config) (hasCallback : Nat → Bool) {es : List Event} {s : State}
    (h : Steps (State.step cfg) (init hasCallback) es s)
    (hmeet : AllMeet (fun s ev => ¬ s.CompletesStale ev) (State.step cfg) (init hasCallback) es) :
    s.Delivered := by
  have hs : Tracked cfg s := hmeet.invariant (fun _ _ _ ht hstale => ht.step hstale) h
    (tracked_init hasCallback)
  exact hs.delivered

/-- A manual network selection is completed by its fake success, the next request gets its
address, and the vendor completes `last`. -/
def reusedAddress (last : Issued) : List Event :=
  [.request 1 0 (.dispatchStrings 47 true [[0x32, 0x36, 0x32]]) (some 8) [], .fakeSuccess,
    .request 2 0 (.dispatchVoid 19) (some 8) [], .complete last rilESuccess]

theorem delivered_reusedAddress : ∃ s, Steps (State.step ⟨1, 15, fun _ => 0⟩)
    (init fun _ => true) (reusedAddress ⟨⟨1, 2⟩, 8, 19, .void⟩) s ∧ s.Delivered := by
  have hsteps := steps_iff_foldlM.mpr (rfl : (reusedAddress ⟨⟨1, 2⟩, 8, 19, .void⟩).foldlM
    (State.step ⟨1, 15, fun _ => 0⟩) (init fun _ => true) = some _)
  refine ⟨_, hsteps, delivered_of_steps _ _ hsteps ?_⟩
  refine .cons rfl not_false (.cons rfl not_false (.cons rfl not_false (.cons rfl ?_ trivial)))
  rintro ⟨hfaked, _⟩
  revert hfaked
  decide

/-- The vendor completes the network selection after all: the response to the second request is
sent. -/
theorem late_completion_misdelivered : ¬ ∀ (cfg : Config) (hasCallback : Nat → Bool)
    (es : List Event) (s : State), Steps (State.step cfg) (init hasCallback) es s →
      s.Delivered := by
  intro h
  have hsteps := steps_iff_foldlM.mpr
    (rfl : (reusedAddress ⟨⟨0, 1⟩, 8, 47, .strings [some [0x32, 0x36, 0x32]]⟩).foldlM
      (State.step ⟨1, 15, fun _ => 0⟩) (init fun _ => true) = some _)
  have hserial := (h _ _ _ _ hsteps).serial _ List.mem_cons_self
  revert hserial
  decide

end State
end Ril
end Huashan
