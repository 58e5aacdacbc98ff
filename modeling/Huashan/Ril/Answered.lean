import Huashan.Ril.Pending

/-!
# Huashan.Ril.Answered

When an answered request leaves its pending list. `RIL_onRequestComplete` removes a request before
it answers it, `sendErrorResponse` answers it and leaves it where it is.
-/

namespace Huashan
namespace Ril
namespace State

variable {cfg : Config}

/-- No request for which a response was sent is in a pending list. -/
def Unanswered (s : State) : Prop :=
  ∀ r ∈ s.responses, ∀ hook, ∀ pRI ∈ s.pendingRequests hook, ∀ info,
    s.memory pRI = some info → info.id ≠ r.owner

/-- The request ends in `sendErrorResponse`, and there is a callback for the error. -/
def AnswersWithError (cfg : Config) (s : State) : Event → Prop
  | .request _ _ r alloc outcomes =>
    (r.dispatch cfg.version).request < numCommands ∧ alloc.isSome ∧
      s.hasCallback (r.dispatch cfg.version).request ∧
      (r.accepted cfg.version = false ∨ false ∈ outcomes.take (r.allocations cfg.version))
  | _ => False

/-! ## Steps keep the invariant -/

theorem Wellformed.complete {s : State} (hs : Wellformed cfg s) (pRI : Nat) (e : RilErrno)
    (completed : Origin) : Wellformed cfg (s.rilOnRequestComplete cfg pRI e completed) := by
  rcases hs.complete_cases pRI e completed with ⟨_, heq⟩ | ⟨info, expectsAck, _, hinfo, heq⟩
  · rwa [heq]
  · rw [heq]
    exact (hs.removed hinfo).respond info (hs.id_lt pRI info hinfo) expectsAck e completed

theorem Wellformed.step {s s' : State} {ev : Event} (hs : Wellformed cfg s)
    (h : s.step cfg ev = some s') : Wellformed cfg s' := by
  cases ev with
  | request serial slotId r alloc outcomes =>
    simp only [State.step, Option.ite_none_right_eq_some] at h
    obtain ⟨⟨_, halloc⟩, h⟩ := h
    rcases dispatch_cases h with ⟨rfl, _⟩ | ⟨pRI, _, rfl, ⟨e, _, rfl⟩ | ⟨payload, rest, _, rfl⟩⟩
    · exact hs
    · obtain ⟨hnull, hfree⟩ := halloc pRI rfl
      exact (hs.added _ _ _ hnull hfree).respond _ (Nat.lt_succ_self _) false e _
    · obtain ⟨hnull, hfree⟩ := halloc pRI rfl
      exact (hs.added _ _ _ hnull hfree).of_eq rfl rfl rfl rfl
  | fakeSuccess =>
    simp only [State.step] at h
    split at h
    · cases h
    · cases h
      exact (hs.complete _ _ _).of_eq rfl rfl rfl rfl
  | ack call =>
    simp only [State.step, Option.ite_none_right_eq_some, Option.some.injEq] at h
    obtain ⟨_, rfl⟩ := h
    rcases hs.ack_cases call.address with heq | ⟨info, hinfo, heq⟩
    · rwa [heq]
    · rw [heq]
      exact (hs.marked hinfo).of_eq rfl rfl rfl rfl
  | complete call e =>
    simp only [State.step, Option.ite_none_right_eq_some, Option.some.injEq] at h
    obtain ⟨_, rfl⟩ := h
    have hissued : Wellformed cfg { s with issued := s.issued.erase call } :=
      hs.of_eq rfl rfl rfl rfl
    exact hissued.complete call.address e call.origin
  | setCallbacks hasCallback =>
    cases h
    exact hs.of_eq rfl rfl rfl rfl

/-! ## Steps and answered requests -/

theorem unanswered_init (hasCallback : Nat → Bool) : (init hasCallback).Unanswered := by
  intro r hr
  cases hr

theorem Unanswered.of_eq {s t : State} (hu : s.Unanswered) (hmemory : t.memory = s.memory)
    (hpending : t.pendingRequests = s.pendingRequests) (hresponses : t.responses = s.responses) :
    t.Unanswered := by
  unfold Unanswered
  rw [hmemory, hpending, hresponses]
  exact hu

theorem Unanswered.complete {s : State} (hu : s.Unanswered) (hs : Wellformed cfg s) (pRI : Nat)
    (e : RilErrno) (completed : Origin) :
    (s.rilOnRequestComplete cfg pRI e completed).Unanswered := by
  rcases hs.complete_cases pRI e completed with ⟨_, heq⟩ | ⟨info, expectsAck, _, hinfo, heq⟩
  · rwa [heq]
  · rw [heq, respond_eq]
    intro r hr hook a ha i hi
    obtain ⟨hne, ha⟩ := (hs.mem_pendingRequests_removed hinfo).mp ha
    obtain ⟨_, hi⟩ := (memory_removed cfg info).mp hi
    rcases mem_sent hr with rfl | hr
    · exact fun hid => hne (hs.id_inj a pRI i info hi hinfo hid)
    · exact hu r hr hook a ha i hi

theorem Unanswered.added {s : State} (hu : s.Unanswered) (hs : Wellformed cfg s) (pRI : Nat)
    (serial : Int32) (slotId request : Nat) :
    (s.added cfg pRI (s.newInfo serial slotId request)).Unanswered := by
  intro r hr hook a ha i hi
  rcases (memory_added cfg _).mp hi with ⟨_, hi⟩ | ⟨hpRI, hi⟩
  · have hlt := hs.owner_lt r hr
    have hnew : i.id = s.nextId := by rw [hi]; rfl
    omega
  · exact hu r hr hook a ((mem_pendingRequests_added.mp ha).resolve_left fun h => hpRI h.1) i hi

theorem Unanswered.marked {s : State} (hu : s.Unanswered) {pRI : Nat} {info : RequestInfo}
    (hinfo : s.memory pRI = some info) : (s.marked pRI info).Unanswered := by
  intro r hr hook a ha i hi
  rcases (memory_marked info).mp hi with ⟨rfl, rfl⟩ | ⟨_, hi⟩
  · exact hu r hr hook a ha info hinfo
  · exact hu r hr hook a ha i hi

/-- An error answers the new request, which stays pending. -/
theorem unanswered_respond_added {s : State} (hu : s.Unanswered) (hs : Wellformed cfg s)
    (pRI : Nat) (serial : Int32) (slotId request : Nat) (e : RilErrno) (completed : Origin) :
    ((s.added cfg pRI (s.newInfo serial slotId request)).respond
      (s.newInfo serial slotId request) false e completed).Unanswered ↔
        ¬ s.hasCallback request := by
  have hadded := hu.added hs pRI serial slotId request
  rw [respond_eq]
  by_cases hcallback : s.hasCallback request
  · refine iff_of_false (fun h => ?_) (not_not_intro hcallback)
    refine h ⟨slotId, serial, false, e, s.nextId, completed⟩ ?_ (cfg.pendingRequestsHook slotId)
      pRI ?_ (s.newInfo serial slotId request) ?_ rfl
    · simp [sent, State.added, newInfo, hcallback]
    · exact mem_pendingRequests_added.mpr (.inl ⟨rfl, rfl⟩)
    · simp [State.added]
  · exact iff_of_true (hadded.of_eq rfl rfl (if_neg hcallback)) hcallback

theorem Unanswered.step {s s' : State} {ev : Event} (hu : s.Unanswered) (hs : Wellformed cfg s)
    (h : s.step cfg ev = some s') : s'.Unanswered ↔ ¬ AnswersWithError cfg s ev := by
  cases ev with
  | request serial slotId r alloc outcomes =>
    simp only [State.step, Option.ite_none_right_eq_some] at h
    obtain ⟨⟨_, halloc⟩, h⟩ := h
    simp only [AnswersWithError, ← r.arguments_error_iff]
    rcases dispatch_cases h with ⟨rfl, hnone⟩ | ⟨pRI, hreq, rfl, ⟨e, harg, rfl⟩ |
      ⟨payload, rest, harg, rfl⟩⟩
    · exact iff_of_true hu fun h => hnone ⟨h.1, h.2.1⟩
    · rw [unanswered_respond_added hu hs]
      simp [hreq, harg]
    · refine iff_of_true ?_ (by simp [harg])
      exact (hu.added hs pRI serial slotId _).of_eq rfl rfl rfl
  | fakeSuccess =>
    refine iff_of_true ?_ not_false
    simp only [State.step] at h
    split at h
    · cases h
    · cases h
      exact (hu.complete hs _ _ _).of_eq rfl rfl rfl
  | ack call =>
    refine iff_of_true ?_ not_false
    simp only [State.step, Option.ite_none_right_eq_some, Option.some.injEq] at h
    obtain ⟨_, rfl⟩ := h
    rcases hs.ack_cases call.address with heq | ⟨info, hinfo, heq⟩
    · rwa [heq]
    · rw [heq]
      exact (hu.marked hinfo).of_eq rfl rfl rfl
  | complete call e =>
    refine iff_of_true ?_ not_false
    simp only [State.step, Option.ite_none_right_eq_some, Option.some.injEq] at h
    obtain ⟨_, rfl⟩ := h
    have hissued : Wellformed cfg { s with issued := s.issued.erase call } :=
      hs.of_eq rfl rfl rfl rfl
    have huissued : Unanswered { s with issued := s.issued.erase call } := hu.of_eq rfl rfl rfl
    exact huissued.complete hissued call.address e call.origin
  | setCallbacks hasCallback =>
    refine iff_of_true ?_ not_false
    cases h
    exact hu.of_eq rfl rfl rfl

/-- Answered requests leave their pending list exactly in the runs in which no request is answered
by `sendErrorResponse`. -/
theorem unanswered_iff (cfg : Config) (hasCallback : Nat → Bool) (es : List Event) :
    Always Unanswered (State.step cfg) (init hasCallback) es ↔
      AllMeet (fun s ev => ¬ AnswersWithError cfg s ev) (State.step cfg) (init hasCallback) es := by
  refine always_iff_allMeet (fun s => Wellformed cfg s ∧ s.Unanswered) ?_ ?_
    ⟨wellformed_init _, unanswered_init _⟩
  · intro s ev s' ⟨hs, hu⟩ hcond h
    exact ⟨hs.step h, (hu.step hs h).mpr hcond⟩
  · intro s ev s' ⟨hs, hu⟩ h
    exact hu.step hs h

/-- `startKeepalive` with an IPv4 address of no bytes is answered with
`RIL_E_INVALID_ARGUMENTS`, and stays pending. -/
theorem error_stays_pending : ¬ ∀ (cfg : Config) (hasCallback : Nat → Bool) (es : List Event),
    Always Unanswered (State.step cfg) (init hasCallback) es := by
  intro h
  let cfg : Config := ⟨1, 15, fun _ => 0⟩
  let ev : Event := .request 1 0 (.startKeepalive ⟨0, [], 0, [], 0, 0, 0⟩) (some 1) []
  have hstep : ∃ s', State.step cfg (init fun _ => true) ev = some s' := ⟨_, rfl⟩
  obtain ⟨s', hs'⟩ := hstep
  have hanswered : AnswersWithError cfg (init fun _ => true) ev :=
    ⟨by decide, rfl, rfl, .inl rfl⟩
  have hu := (h cfg (fun _ => true) [ev] s' hs').1
  exact ((unanswered_init _).step (wellformed_init _) hs').mp hu hanswered

end State
end Ril
end Huashan
