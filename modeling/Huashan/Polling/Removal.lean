import Huashan.Polling.Responses

/-!
# Huashan.Polling.Removal

What is left of a descriptor that has been removed: a response that was there before, if any.
`removed_dispatched_once` is the result, with what it means for a callback that removes its own
descriptor.
-/

namespace Huashan
namespace Polling

variable {η γ δ : Type}

def Event.Adds (fd : Int) : Event η γ δ → Prop
  | .addFd fd' .. => fd' = fd
  | _ => False

theorem Rewatch.requests_none {v v' : Watch γ δ} {e : Event η γ δ} {fd : Int}
    (hs : Rewatch e v v') (h : v.requests fd = none) (hno : ¬ e.Adds fd) :
    v'.requests fd = none := by
  cases hs with
  | same _ => exact h
  | set _ _ =>
    have hne : fd ≠ _ := fun heq => hno heq.symm
    exact (v.setAt_of_ne _ _ hne).1.trans h
  | @del _ _ fd' _ _ _ =>
    by_cases hfd : fd = fd'
    · subst hfd
      exact v.setAt_requests_self fd none none
    · exact (v.setAt_of_ne _ _ hfd).1.trans h
  | @close _ fd' _ =>
    by_cases hfd : fd = fd'
    · subst hfd
      exact (v.setAt_requests_self fd _ none).trans h
    · exact (v.setAt_of_ne _ _ hfd).1.trans h

namespace World

variable {D : Delay} {w w' : World η γ δ}

theorem collected_turn (result : Int) : (w.turn D result).collected = w.collected := by
  unfold turn
  dsimp only
  split
  · rfl
  · split
    · rfl
    · rfl

theorem collected_respond (i : Nat) (result : Int) :
    (w.respond D i result).collected = w.collected := by
  unfold respond
  split
  · split
    · rfl
    · rfl
  · exact collected_turn result

theorem collected_nextMessage (result : Int) :
    (w.nextMessage result).collected = w.collected := by
  unfold nextMessage
  split
  · rfl
  · split
    · rfl
    · rfl

theorem collected_answered (i : Nat) (callbackResult : Int) (granted : Bool) :
    (w.answered i callbackResult granted).collected = w.collected := by
  unfold answered
  split
  · dsimp only
    split
    · rfl
    · rfl
  · rfl

/-- How many of the responses are for a descriptor. -/
def countFd (fd : Int) (rs : List (Response γ δ)) : Nat := rs.countP fun r => r.request.fd == fd

/-- What has been reported has been dispatched or is to be. -/
theorem Dispatching.perm (h : w.Dispatching) :
    w.collected.Perm (w.dispatched ++ (w.pendingCallbacks ++ w.pendingIdents)) := by
  have hcollected := filter_kinds_perm h.dispatchable
  have hdispatched := filter_kinds_perm fun r hr => h.dispatchable r (h.dispatched r hr)
  rw [h.callbacks, h.idents] at hcollected
  refine hcollected.symm.trans ?_
  refine List.Perm.trans ?_ (hdispatched.append_right _)
  rw [List.append_assoc, List.append_assoc]
  refine List.Perm.append_left _ ?_
  rw [← List.append_assoc, ← List.append_assoc]
  exact List.perm_append_comm.append_right _

theorem pendingCallbacks_sublist :
    w.pendingCallbacks.Sublist (w.looper.mResponses.filter Response.isCallback) := by
  unfold pendingCallbacks
  split
  · exact List.nil_sublist _
  · exact List.nil_sublist _
  · exact List.nil_sublist _
  · exact List.Sublist.refl _
  · exact (List.drop_sublist _ _).filter _
  · exact (List.drop_sublist _ _).filter _

theorem countFd_responses (h : w.Dispatching) (fd : Int) : countFd fd w.looper.mResponses ≤ 1 := by
  have hle := List.nodup_iff_count_le_one.mp h.distinct fd
  rw [List.count, List.countP_map] at hle
  exact hle

theorem countFd_append (fd : Int) (rs rs' : List (Response γ δ)) :
    countFd fd (rs ++ rs') = countFd fd rs + countFd fd rs' := List.countP_append

theorem countFd_pending (h : w.Dispatching) (fd : Int) :
    countFd fd (w.pendingCallbacks ++ w.pendingIdents) ≤ 1 := by
  have hcallbacks : countFd fd w.pendingCallbacks ≤
      countFd fd (w.looper.mResponses.filter Response.isCallback) :=
    pendingCallbacks_sublist.countP_le
  have hidents : countFd fd w.pendingIdents ≤
      countFd fd (w.looper.mResponses.filter fun r => !r.isCallback) := by
    have hdrop : countFd fd w.pendingIdents ≤
        countFd fd (w.looper.mResponses.filter Response.hasIdent) :=
      ((List.drop_sublist _ _).filter _).countP_le
    refine hdrop.trans ?_
    rw [countFd, countFd, List.countP_filter, List.countP_filter]
    refine List.countP_mono_left ?_
    intro r _ hr
    obtain ⟨hfd, hident⟩ := Bool.and_eq_true_iff.mp hr
    simp [hfd, Response.isCallback_eq_false hident]
  have hsplit : countFd fd w.looper.mResponses =
      countFd fd (w.looper.mResponses.filter Response.isCallback) +
        countFd fd (w.looper.mResponses.filter fun r => !r.isCallback) := by
    have := List.countP_eq_countP_filter_add w.looper.mResponses
      (fun r => r.request.fd == fd) Response.isCallback
    simpa [countFd] using this
  have hone := countFd_responses h fd
  rw [countFd_append]
  omega

/-- While a callback runs, no other response for its descriptor is left. -/
theorem countFd_calling (h : w.Dispatching) {i : Nat} (hphase : w.phase = .calling i)
    {r : Response γ δ} (hr : w.looper.mResponses[i]? = some r) :
    countFd r.request.fd (w.pendingCallbacks ++ w.pendingIdents) = 0 := by
  have hok := h.phase
  simp only [PhaseOk, hphase] at hok
  obtain ⟨hindex, r', hr', his⟩ := hok
  obtain rfl : r' = r := Option.some.inj (hr'.symm.trans hr)
  obtain ⟨hi, hget⟩ := List.getElem?_eq_some_iff.mp hr
  have hdistinct := h.distinct
  have hsame : ∀ j, (hj : j < w.looper.mResponses.length) →
      w.looper.mResponses[j].request.fd = r'.request.fd → j = i := by
    intro j hj heq
    have hj' : j < (w.looper.mResponses.map fun r => r.request.fd).length := by simpa using hj
    have hi' : i < (w.looper.mResponses.map fun r => r.request.fd).length := by simpa using hi
    have hget' : (w.looper.mResponses.map fun r => r.request.fd)[j] =
        (w.looper.mResponses.map fun r => r.request.fd)[i] := by simp [heq, hget]
    exact hdistinct.getElem_inj_iff.mp hget'
  rw [countFd, List.countP_eq_zero]
  intro x hx heq
  have hfd : x.request.fd = r'.request.fd := by simpa using heq
  rcases List.mem_append.mp hx with hx | hx
  · simp only [pendingCallbacks, hphase] at hx
    obtain ⟨j, hj, rfl⟩ := List.getElem_of_mem (List.mem_of_mem_filter hx)
    rw [List.getElem_drop] at hfd
    have := hsame _ _ hfd
    omega
  · obtain ⟨hmem, hident⟩ := List.mem_filter.mp hx
    rw [hindex, List.drop_zero] at hmem
    obtain ⟨j, hj, rfl⟩ := List.getElem_of_mem hmem
    obtain rfl := hsame j hj hfd
    rw [hget, Response.hasIdent_eq_false his] at hident
    cases hident

variable [DecidableEq η]

/-- A step reports only what has a request. -/
theorem step_collected {e : Event η γ δ} (h : w.Dispatching) (hs : w.step D e = some w') :
    ∃ rs, w'.collected = w.collected ++ rs ∧
      ∀ r ∈ rs, ∃ fd, w.looper.mRequests fd = some r.request ∧ r.request.fd = fd := by
  have hsame : w'.collected = w.collected → ∃ rs, w'.collected = w.collected ++ rs ∧
      ∀ r ∈ rs, ∃ fd, w.looper.mRequests fd = some r.request ∧ r.request.fd = fd := by
    intro heq
    exact ⟨[], by rw [heq, List.append_nil], nofun⟩
  cases e with
  | pollOnce timeoutMillis =>
    obtain ⟨-, rfl⟩ := step_pollOnce.mp hs
    exact hsame (collected_turn 0)
  | waited wait =>
    obtain ⟨t, now, -, -, rfl⟩ := step_waited.mp hs
    exact hsame rfl
  | locked =>
    obtain ⟨wait, -, rfl⟩ := step_locked.mp hs
    have hdone : ∀ (w₁ : World η γ δ) result, (w₁.done result).collected = w₁.collected :=
      fun _ result => collected_nextMessage result
    unfold lock
    split
    · exact ⟨[], by rw [hdone, List.append_nil], nofun⟩
    · exact ⟨[], by rw [hdone, List.append_nil], nofun⟩
    · exact ⟨[], by rw [hdone, List.append_nil], nofun⟩
    · rename_i items _
      obtain ⟨rs, hpushed⟩ := pushed_foldl h.sound items
      refine ⟨rs, by rw [hdone, hpushed.collected], ?_⟩
      intro r hr
      obtain ⟨fd, hreq⟩ := hpushed.requests r hr
      exact ⟨fd, hreq, (h.sound.formed fd r.request hreq).fd_eq⟩
  | handled =>
    obtain ⟨-, rfl⟩ := step_handled.mp hs
    exact hsame (collected_nextMessage _)
  | respond =>
    obtain ⟨i, result, -, rfl⟩ := step_respond.mp hs
    exact hsame (collected_respond i result)
  | answered callbackResult granted =>
    obtain ⟨i, -, rfl⟩ := step_answered.mp hs
    exact hsame (collected_answered i callbackResult granted)
  | wakeAfterSend =>
    obtain ⟨-, rfl⟩ := step_wakeAfterSend.mp hs
    exact hsame rfl
  | close fd =>
    obtain ⟨-, rfl⟩ := step_close.mp hs
    exact hsame rfl
  | tick now =>
    obtain ⟨-, rfl⟩ := step_tick.mp hs
    exact hsame rfl
  | _ =>
    obtain rfl := Option.some.inj hs
    exact hsame rfl

/-- Nothing is reported for a descriptor that has no request and is not added. -/
theorem collected_of_removed {fd : Int} {es : List (Event η γ δ)} (h : w.Dispatching)
    (hgone : w.looper.mRequests fd = none) (hrun : Steps (step D) w es w')
    (hno : ∀ e ∈ es, ¬ e.Adds fd) :
    w'.Dispatching ∧ countFd fd w'.collected = countFd fd w.collected := by
  induction hrun with
  | refl => exact ⟨h, rfl⟩
  | @cons s s' s'' e es hse _ ih =>
    have hgone' : s'.looper.mRequests fd = none :=
      (step_rewatch hse).requests_none hgone (hno e List.mem_cons_self)
    obtain ⟨hend, hcount⟩ :=
      ih (h.step hse) hgone' fun e' he' => hno e' (List.mem_cons_of_mem e he')
    refine ⟨hend, hcount.trans ?_⟩
    obtain ⟨rs, hcollected, hrequests⟩ := step_collected h hse
    have hnone : countFd fd rs = 0 := by
      rw [countFd, List.countP_eq_zero]
      intro r hr heq
      obtain ⟨fd', hreq, hfd⟩ := hrequests r hr
      have hsame : fd' = fd := hfd.symm.trans (by simpa using heq)
      rw [hsame, hgone] at hreq
      cases hreq
    rw [hcollected, countFd, List.countP_append]
    exact congrArg _ hnone

/-- After a descriptor has been removed, and as long as it is not added anew, its callback is
called or its identifier returned at most once, whatever the threads do. A callback that removes
its own descriptor is not called again. -/
theorem removed_dispatched_once {allowNonCallbacks : Bool} {wakeFd clock fd : Int}
    {es es' : List (Event η γ δ)}
    (hrun : Steps (step D) (new allowNonCallbacks wakeFd clock) es w)
    (hgone : w.looper.mRequests fd = none) (hlater : Steps (step D) w es' w')
    (hno : ∀ e ∈ es', ¬ e.Adds fd) :
    countFd fd w'.dispatched ≤ countFd fd w.dispatched + 1 ∧
      ∀ i r, w.phase = .calling i → w.looper.mResponses[i]? = some r → r.request.fd = fd →
        countFd fd w'.dispatched ≤ countFd fd w.dispatched := by
  have h := dispatching_of_steps hrun
  obtain ⟨h', hsame⟩ := collected_of_removed h hgone hlater hno
  have hbefore : countFd fd w.collected =
      countFd fd w.dispatched + countFd fd (w.pendingCallbacks ++ w.pendingIdents) := by
    rw [← countFd_append]
    exact h.perm.countP_eq _
  have hafter : countFd fd w'.collected =
      countFd fd w'.dispatched + countFd fd (w'.pendingCallbacks ++ w'.pendingIdents) := by
    rw [← countFd_append]
    exact h'.perm.countP_eq _
  constructor
  · have := countFd_pending h fd
    omega
  · intro i r hphase hr hfd
    have hnone := countFd_calling h hphase hr
    rw [hfd] at hnone
    omega

/-- A callback removes its descriptor before it returns. -/
def removing : List (Event Bool Unit Unit) :=
  [.addFd 5 0 1 (some ()) () true, .pollOnce (-1), .waited (.ready [(5, 1)]), .locked, .respond,
    .removeFd 5 true]

theorem removing_isSome :
    (removing.foldlM (step millisDelay) (new true 3 0)).isSome = true := by decide +kernel

def removed : World Bool Unit Unit :=
  (removing.foldlM (step millisDelay) (new true 3 0)).get removing_isSome

theorem removing_run : Steps (step millisDelay) (new true 3 0) removing removed :=
  steps_iff_foldlM.mpr (Option.some_get removing_isSome).symm

theorem removed_dispatched_once_five : ∃ w' : World Bool Unit Unit,
    countFd 5 w'.dispatched ≤ countFd 5 removed.dispatched + 1 := by
  have hsome : ([.answered 1 true, .respond].foldlM (step millisDelay) removed).isSome = true := by
    decide +kernel
  obtain ⟨w', hw'⟩ := Option.isSome_iff_exists.mp hsome
  have hgone : removed.looper.mRequests 5 = none :=
    Option.isNone_iff_eq_none.mp (by decide +kernel)
  exact ⟨w', (removed_dispatched_once removing_run hgone (steps_iff_foldlM.mpr hw')
    (by simp [Event.Adds])).1⟩

end World
end Polling
end Huashan
