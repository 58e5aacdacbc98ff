import Huashan.Polling.Requests

/-!
# Huashan.Polling.Responses

What becomes of the events that polls report.

* `responses_dispatched`: each is given to its callback or returned with its identifier once, in
  the order of the reports.
* `returned_means`: what a caller of `pollOnce` can tell from the result.
-/

namespace Huashan
namespace Polling

variable {η γ δ : Type}

namespace Response

def isCallback (r : Response γ δ) : Bool := r.request.ident = pollCallback

def hasIdent (r : Response γ δ) : Bool := 0 ≤ r.request.ident

/-- The callback is there when it is to be called. -/
def Dispatchable (r : Response γ δ) : Prop :=
  r.isCallback = true ∧ r.request.callback.isSome = true ∨
    r.hasIdent = true ∧ r.request.callback = none

theorem isCallback_iff {r : Response γ δ} :
    r.isCallback = true ↔ r.request.ident = pollCallback := decide_eq_true_iff

theorem hasIdent_iff {r : Response γ δ} : r.hasIdent = true ↔ 0 ≤ r.request.ident :=
  decide_eq_true_iff

theorem hasIdent_eq_false {r : Response γ δ} (h : r.isCallback = true) : r.hasIdent = false := by
  have hident := isCallback_iff.mp h
  simp [hasIdent, hident, pollCallback]

theorem isCallback_eq_false {r : Response γ δ} (h : r.hasIdent = true) : r.isCallback = false := by
  cases hcallback : r.isCallback with
  | false => rfl
  | true =>
    rw [hasIdent_eq_false hcallback] at h
    cases h

theorem Dispatchable.hasIdent_eq {r : Response γ δ} (h : r.Dispatchable) :
    r.hasIdent = !r.isCallback := by
  obtain ⟨hcallback, -⟩ | ⟨hident, -⟩ := h
  · rw [hasIdent_eq_false hcallback, hcallback]
    rfl
  · rw [isCallback_eq_false hident, hident]
    rfl

end Response

theorem Request.WellFormed.dispatchable {request : Request γ δ} {fd : Int} {allow : Bool}
    (h : request.WellFormed fd allow) (events : BitVec 32) :
    Response.Dispatchable ⟨events, request⟩ := by
  obtain ⟨hident, hsome⟩ | ⟨hident, hnone, -⟩ := h.callback
  · exact .inl ⟨by simp [Response.isCallback, hident], hsome⟩
  · exact .inr ⟨by simp [Response.hasIdent, hident], hnone⟩

/-- The search finds the first response with an identifier. -/
theorem nextIdent_spec (rs : List (Response γ δ)) (i : Nat) :
    (∃ r n, nextIdent rs i = (some r, i + n) ∧
      rs.filter Response.hasIdent = r :: (rs.drop n).filter Response.hasIdent ∧
      r.hasIdent = true) ∨
    nextIdent rs i = (none, i + rs.length) ∧ rs.filter Response.hasIdent = [] := by
  induction rs generalizing i with
  | nil => exact .inr ⟨rfl, rfl⟩
  | cons r rs ih =>
    by_cases hr : 0 ≤ r.request.ident
    · have hident : r.hasIdent = true := by simp [Response.hasIdent, hr]
      refine .inl ⟨r, 1, ?_, ?_, hident⟩
      · rw [nextIdent, if_pos hr]
      · rw [List.filter_cons_of_pos hident]
        rfl
    · have hident : ¬ r.hasIdent = true := by simp [Response.hasIdent, hr]
      rw [nextIdent, if_neg hr, List.filter_cons_of_neg hident]
      obtain ⟨r', n, heq, hfilter, hr'⟩ | ⟨heq, hfilter⟩ := ih (i + 1)
      · refine .inl ⟨r', n + 1, ?_, hfilter, hr'⟩
        rw [heq, Nat.add_assoc, Nat.add_comm 1 n]
      · refine .inr ⟨?_, hfilter⟩
        rw [heq, List.length_cons, Nat.add_assoc, Nat.add_comm 1]

namespace World

variable {D : Delay} {w w' : World η γ δ}

/-- The responses whose callback is still to be called. -/
def pendingCallbacks (w : World η γ δ) : List (Response γ δ) :=
  match w.phase with
  | .idle | .waiting .. | .polled _ => []
  | .handling _ => w.looper.mResponses.filter Response.isCallback
  | .responding i _ => (w.looper.mResponses.drop i).filter Response.isCallback
  | .calling i => (w.looper.mResponses.drop (i + 1)).filter Response.isCallback

/-- The responses whose identifier is still to be returned. -/
def pendingIdents (w : World η γ δ) : List (Response γ δ) :=
  (w.looper.mResponses.drop w.looper.mResponseIndex).filter Response.hasIdent

end World

/-- A result of a poll that is not an identifier. -/
def IsResult (result : Int) : Prop :=
  result = pollWake ∨ result = pollCallback ∨ result = pollTimeout ∨ result = pollError

/-- What a caller is given with an identifier. -/
def Returned.ofResponse (r : Response γ δ) : Returned δ :=
  ⟨r.request.ident, r.request.fd, r.events, some r.request.data⟩

namespace World

variable {D : Delay} {w w' : World η γ δ}

/-- What the thread knows about the responses where it is. -/
def PhaseOk (w : World η γ δ) : Prop :=
  match w.phase with
  | .idle => True
  | .waiting .. => w.looper.mResponses = [] ∧ w.looper.mResponseIndex = 0
  | .polled wait => (w.looper.mResponses = [] ∧ w.looper.mResponseIndex = 0) ∧
      ∀ items, wait = .ready items → (items.map Prod.fst).Nodup
  | .handling _ => w.looper.mResponseIndex = 0
  | .responding _ result => w.looper.mResponseIndex = 0 ∧ IsResult result
  | .calling i => w.looper.mResponseIndex = 0 ∧
      ∃ r, w.looper.mResponses[i]? = some r ∧ r.isCallback = true

structure Dispatching (w : World η γ δ) : Prop where
  sound : w.watch.Sound
  dispatchable : ∀ r ∈ w.collected, r.Dispatchable
  callbacks : w.collected.filter Response.isCallback =
    w.dispatched.filter Response.isCallback ++ w.pendingCallbacks
  idents : w.collected.filter Response.hasIdent =
    w.dispatched.filter Response.hasIdent ++ w.pendingIdents
  dispatched : ∀ r ∈ w.dispatched, r ∈ w.collected
  returned : ∀ x ∈ w.returned, (∃ r ∈ w.dispatched, r.hasIdent = true ∧ x = .ofResponse r) ∨
    ∃ result, IsResult result ∧ x = ⟨result, 0, 0, none⟩
  exhausted : w.phase = .idle → ∀ x, w.returned.getLast? = some x → x.result < 0 →
    w.pendingIdents = []
  phase : w.PhaseOk
  distinct : (w.looper.mResponses.map fun r => r.request.fd).Nodup

/-! ## Reports -/

/-- A report pushes responses for descriptors that it names, each once. -/
structure Pushed (w w' : World η γ δ) (fds : List Int) (rs : List (Response γ δ)) : Prop where
  responses : w'.looper.mResponses = w.looper.mResponses ++ rs
  collected : w'.collected = w.collected ++ rs
  fds : (rs.map fun r => r.request.fd).Sublist fds
  requests : ∀ r ∈ rs, ∃ fd, w.looper.mRequests fd = some r.request
  index : w'.looper.mResponseIndex = w.looper.mResponseIndex
  dispatched : w'.dispatched = w.dispatched
  returned : w'.returned = w.returned

theorem pushed_handleItem (hw : w.watch.Sound) (item : Int × BitVec 32) :
    ∃ rs, Pushed w (w.handleItem item) [item.1] rs := by
  have hnone : ∀ w' : World η γ δ, w'.looper = w.looper → w'.collected = w.collected →
      w'.dispatched = w.dispatched → w'.returned = w.returned → Pushed w w' [item.1] [] := by
    intro w' hlooper hcollected hdispatched hreturned
    exact ⟨by simp [hlooper], by simp [hcollected], by simp, nofun, by rw [hlooper], hdispatched,
      hreturned⟩
  unfold handleItem
  split
  · split
    · exact ⟨[], hnone _ rfl rfl rfl rfl⟩
    · exact ⟨[], hnone _ rfl rfl rfl rfl⟩
  · split
    · rename_i request hr
      refine ⟨[⟨eventsOf item.2, request⟩], rfl, rfl, ?_, ?_, rfl, rfl, rfl⟩
      · have hfd := (hw.formed item.1 request hr).fd_eq
        simp [hfd]
      · intro r hmem
        obtain rfl := List.mem_singleton.mp hmem
        exact ⟨item.1, hr⟩
    · exact ⟨[], hnone _ rfl rfl rfl rfl⟩

theorem Pushed.trans {w₁ w₂ w₃ : World η γ δ} {fds fds' : List Int} {rs rs' : List (Response γ δ)}
    (h : Pushed w₁ w₂ fds rs) (h' : Pushed w₂ w₃ fds' rs')
    (hw : w₂.looper.mRequests = w₁.looper.mRequests) :
    Pushed w₁ w₃ (fds ++ fds') (rs ++ rs') := by
  refine ⟨?_, ?_, ?_, ?_, ?_, ?_, ?_⟩
  · rw [h'.responses, h.responses, List.append_assoc]
  · rw [h'.collected, h.collected, List.append_assoc]
  · rw [List.map_append]
    exact h.fds.append h'.fds
  · intro r hr
    rcases List.mem_append.mp hr with hr | hr
    · exact h.requests r hr
    · rw [← hw]
      exact h'.requests r hr
  · rw [h'.index, h.index]
  · rw [h'.dispatched, h.dispatched]
  · rw [h'.returned, h.returned]

theorem pushed_foldl (hw : w.watch.Sound) (items : List (Int × BitVec 32)) :
    ∃ rs, Pushed w (items.foldl handleItem w) (items.map Prod.fst) rs := by
  induction items generalizing w with
  | nil => exact ⟨[], by simp, by simp, by simp, nofun, rfl, rfl, rfl⟩
  | cons item items ih =>
    have hsame := watch_handleItem (w := w) item
    obtain ⟨rs, hfirst⟩ := pushed_handleItem hw item
    obtain ⟨rs', hrest⟩ := ih (hsame ▸ hw)
    exact ⟨rs ++ rs', hfirst.trans hrest (congrArg Watch.requests hsame)⟩

/-! ## The steps -/

/-- A step that is not about the responses. -/
theorem Dispatching.of_same (h : w.Dispatching) (hsound : w'.watch.Sound)
    (hresponses : w'.looper.mResponses = w.looper.mResponses)
    (hindex : w'.looper.mResponseIndex = w.looper.mResponseIndex)
    (hghost : w'.collected = w.collected ∧ w'.dispatched = w.dispatched ∧
      w'.returned = w.returned) (hphase : w'.phase = w.phase) : w'.Dispatching := by
  obtain ⟨hcollected, hdispatched, hreturned⟩ := hghost
  have hcallbacks : w'.pendingCallbacks = w.pendingCallbacks := by
    unfold pendingCallbacks
    rw [hphase, hresponses]
  have hidents : w'.pendingIdents = w.pendingIdents := by
    unfold pendingIdents
    rw [hresponses, hindex]
  refine ⟨hsound, ?_, ?_, ?_, ?_, ?_, ?_, ?_, ?_⟩
  · rw [hcollected]
    exact h.dispatchable
  · rw [hcollected, hdispatched, hcallbacks]
    exact h.callbacks
  · rw [hcollected, hdispatched, hidents]
    exact h.idents
  · rw [hcollected, hdispatched]
    exact h.dispatched
  · rw [hreturned, hdispatched]
    exact h.returned
  · rw [hphase, hreturned, hidents]
    exact h.exhausted
  · have hok := h.phase
    unfold PhaseOk at hok ⊢
    rw [hphase, hresponses, hindex]
    exact hok
  · rw [hresponses]
    exact h.distinct

/-- With the lock held, before callbacks are called. -/
structure Reported (w : World η γ δ) : Prop where
  sound : w.watch.Sound
  dispatchable : ∀ r ∈ w.collected, r.Dispatchable
  callbacks : w.collected.filter Response.isCallback =
    w.dispatched.filter Response.isCallback ++ w.looper.mResponses.filter Response.isCallback
  idents : w.collected.filter Response.hasIdent =
    w.dispatched.filter Response.hasIdent ++ w.pendingIdents
  dispatched : ∀ r ∈ w.dispatched, r ∈ w.collected
  returned : ∀ x ∈ w.returned, (∃ r ∈ w.dispatched, r.hasIdent = true ∧ x = .ofResponse r) ∨
    ∃ result, IsResult result ∧ x = ⟨result, 0, 0, none⟩
  index : w.looper.mResponseIndex = 0
  distinct : (w.looper.mResponses.map fun r => r.request.fd).Nodup

theorem Reported.nextMessage (h : w.Reported) {result : Int} (hresult : IsResult result) :
    (w.nextMessage result).Dispatching := by
  have hsound : (w.nextMessage result).watch.Sound := by
    rw [watch_nextMessage]
    exact h.sound
  revert hsound
  unfold World.nextMessage
  split
  · intro hsound
    exact ⟨hsound, h.dispatchable, h.callbacks, h.idents, h.dispatched, h.returned, nofun,
      ⟨h.index, hresult⟩, h.distinct⟩
  · split
    · intro hsound
      exact ⟨hsound, h.dispatchable, h.callbacks, h.idents, h.dispatched, h.returned, nofun,
        h.index, h.distinct⟩
    · intro hsound
      exact ⟨hsound, h.dispatchable, h.callbacks, h.idents, h.dispatched, h.returned, nofun,
        ⟨h.index, hresult⟩, h.distinct⟩

theorem Reported.done (h : w.Reported) {result : Int} (hresult : IsResult result) :
    (w.done result).Dispatching := by
  have hdone : Reported { w with looper := { w.looper with mNextMessageUptime := llongMax } } :=
    ⟨h.sound, h.dispatchable, h.callbacks, h.idents, h.dispatched, h.returned, h.index, h.distinct⟩
  exact hdone.nextMessage hresult

/-- What a report pushes is there to be dispatched. -/
theorem Dispatching.reported (h : w.Dispatching) (hcallbacks : w.pendingCallbacks = [])
    (hempty : w.looper.mResponses = [] ∧ w.looper.mResponseIndex = 0)
    {items : List (Int × BitVec 32)} (hitems : (items.map Prod.fst).Nodup) :
    (items.foldl handleItem w).Reported := by
  obtain ⟨rs, hpushed⟩ := pushed_foldl h.sound items
  have hpending : w.pendingIdents = [] := by simp [pendingIdents, hempty.1]
  have hresponses : (items.foldl handleItem w).looper.mResponses = rs := by
    rw [hpushed.responses, hempty.1, List.nil_append]
  have hindex : (items.foldl handleItem w).looper.mResponseIndex = 0 := by
    rw [hpushed.index, hempty.2]
  refine ⟨?_, ?_, ?_, ?_, ?_, ?_, hindex, ?_⟩
  · rw [watch_foldl]
    exact h.sound
  · intro r hr
    rw [hpushed.collected] at hr
    rcases List.mem_append.mp hr with hr | hr
    · exact h.dispatchable r hr
    · obtain ⟨fd, hreq⟩ := hpushed.requests r hr
      exact (h.sound.formed fd r.request hreq).dispatchable r.events
  · rw [hpushed.collected, hpushed.dispatched, hresponses, List.filter_append, h.callbacks,
      hcallbacks, List.append_nil]
  · rw [hpushed.collected, hpushed.dispatched, pendingIdents, hresponses, hindex,
      List.filter_append, h.idents, hpending, List.append_nil, List.drop_zero]
  · intro r hr
    rw [hpushed.dispatched] at hr
    rw [hpushed.collected]
    exact List.mem_append_left rs (h.dispatched r hr)
  · rw [hpushed.returned, hpushed.dispatched]
    exact h.returned
  · rw [hresponses]
    exact hitems.sublist hpushed.fds

theorem Dispatching.lock (h : w.Dispatching) {wait : Wait} (hphase : w.phase = .polled wait) :
    (w.lock wait).Dispatching := by
  have hcallbacks : w.pendingCallbacks = [] := by simp [pendingCallbacks, hphase]
  have hok := h.phase
  simp only [PhaseOk, hphase] at hok
  obtain ⟨hempty, hitems⟩ := hok
  have hnone : (([] : List (Int × BitVec 32)).foldl handleItem w).Reported :=
    h.reported hcallbacks hempty List.nodup_nil
  rw [List.foldl_nil] at hnone
  unfold World.lock
  split
  · exact hnone.done (.inl rfl)
  · exact hnone.done (.inr (.inr (.inr rfl)))
  · exact hnone.done (.inr (.inr (.inl rfl)))
  · exact (h.reported hcallbacks hempty (hitems _ rfl)).done (.inl rfl)

theorem Dispatching.handled (h : w.Dispatching) {e : MessageEnvelope η}
    (hphase : w.phase = .handling e) :
    (nextMessage { w with looper := { w.looper with mSendingMessage := false } }
      pollCallback).Dispatching := by
  have hcallbacks := h.callbacks
  have hok := h.phase
  simp only [pendingCallbacks, PhaseOk, hphase] at hcallbacks hok
  have hreported : Reported { w with looper := { w.looper with mSendingMessage := false } } :=
    ⟨h.sound, h.dispatchable, hcallbacks, h.idents, h.dispatched, h.returned, hok, h.distinct⟩
  exact hreported.nextMessage (.inr (.inl rfl))

/-- A turn of the loop of `pollOnce`, when no callback is to be called. -/
theorem Dispatching.turn (h : w.Dispatching) (hcallbacks : w.pendingCallbacks = [])
    {result : Int} (hresult : result = 0 ∨ IsResult result) : (w.turn D result).Dispatching := by
  have hsound : (w.turn D result).watch.Sound := by
    rw [watch_turn]
    exact h.sound
  have hnext := h.callbacks
  rw [hcallbacks, List.append_nil] at hnext
  revert hsound
  unfold World.turn
  dsimp only
  obtain ⟨r, n, heq, hfilter, hr⟩ | ⟨heq, hfilter⟩ :=
    nextIdent_spec (w.looper.mResponses.drop w.looper.mResponseIndex) w.looper.mResponseIndex
  · intro hsound
    have hidents := h.idents
    rw [pendingIdents, hfilter, List.drop_drop] at hidents
    have hmem : r ∈ w.collected := by
      have hr' : r ∈ w.collected.filter Response.hasIdent := by
        rw [hidents]
        simp
      exact List.mem_of_mem_filter hr'
    rw [heq] at hsound ⊢
    refine ⟨hsound, h.dispatchable, ?_, ?_, ?_, ?_, ?_, trivial, h.distinct⟩
    · rw [hnext, List.filter_append,
        List.filter_cons_of_neg (by simp [Response.isCallback_eq_false hr])]
      simp [pendingCallbacks]
    · rw [hidents, List.filter_append, List.filter_cons_of_pos hr]
      simp [pendingIdents]
    · intro r' hr'
      rcases List.mem_append.mp hr' with hr' | hr'
      · exact h.dispatched r' hr'
      · obtain rfl := List.mem_singleton.mp hr'
        exact hmem
    · intro x hx
      rcases List.mem_append.mp hx with hx | hx
      · obtain ⟨r', hr', hident, rfl⟩ | hresult := h.returned x hx
        · exact .inl ⟨r', List.mem_append_left _ hr', hident, rfl⟩
        · exact .inr hresult
      · obtain rfl := List.mem_singleton.mp hx
        exact .inl ⟨r, by simp, hr, rfl⟩
    · intro _ x hx hneg
      rw [List.getLast?_concat, Option.some.injEq] at hx
      subst hx
      exact absurd (Response.hasIdent_iff.mp hr) (not_le.mpr hneg)
  · have hpending : w.pendingIdents = [] := hfilter
    have hidents := h.idents
    rw [hpending, List.append_nil] at hidents
    have hrest : (w.looper.mResponses.drop (w.looper.mResponseIndex +
        (w.looper.mResponses.drop w.looper.mResponseIndex).length)).filter Response.hasIdent =
        [] := by
      rw [← List.drop_drop, List.drop_length]
      rfl
    rw [heq]
    dsimp only
    split
    · rename_i hne
      intro hsound
      have hres := hresult.resolve_left hne
      refine ⟨hsound, h.dispatchable, ?_, ?_, h.dispatched, ?_, ?_, trivial, h.distinct⟩
      · simp [hnext, pendingCallbacks]
      · dsimp only [pendingIdents]
        rw [hrest, hidents, List.append_nil]
      · intro x hx
        rcases List.mem_append.mp hx with hx | hx
        · exact h.returned x hx
        · obtain rfl := List.mem_singleton.mp hx
          exact .inr ⟨result, hres, rfl⟩
      · intro _ _ _ _
        exact hrest
    · intro hsound
      refine ⟨hsound, h.dispatchable, ?_, ?_, h.dispatched, h.returned, nofun, ⟨rfl, rfl⟩,
        List.nodup_nil⟩
      · simp [hnext, pendingCallbacks, pollInner]
      · simp [hidents, pendingIdents, pollInner]

theorem Dispatching.respond (h : w.Dispatching) {i : Nat} {result : Int}
    (hphase : w.phase = .responding i result) : (w.respond D i result).Dispatching := by
  have hcallbacks := h.callbacks
  have hok := h.phase
  simp only [pendingCallbacks, PhaseOk, hphase] at hcallbacks hok
  obtain ⟨hindex, hresult⟩ := hok
  have hidents := h.idents
  rw [pendingIdents, hindex, List.drop_zero] at hidents
  unfold World.respond
  cases hr : w.looper.mResponses[i]? with
  | none =>
    refine h.turn ?_ (.inr hresult)
    simp only [pendingCallbacks, hphase]
    rw [List.drop_eq_nil_of_le (List.getElem?_eq_none_iff.mp hr)]
    rfl
  | some r =>
    have hdrop : w.looper.mResponses.drop i = r :: w.looper.mResponses.drop (i + 1) := by
      obtain ⟨hi, rfl⟩ := List.getElem?_eq_some_iff.mp hr
      exact List.drop_eq_getElem_cons hi
    rw [hdrop] at hcallbacks
    dsimp only
    by_cases hcallback : r.request.ident = pollCallback
    · rw [if_pos hcallback]
      have his := Response.isCallback_iff.mpr hcallback
      rw [List.filter_cons_of_pos his] at hcallbacks
      have hmem : r ∈ w.collected := by
        have hr' : r ∈ w.collected.filter Response.isCallback := by
          rw [hcallbacks]
          simp
        exact List.mem_of_mem_filter hr'
      refine ⟨h.sound, h.dispatchable, ?_, ?_, ?_, ?_, nofun, ⟨hindex, r, hr, his⟩, h.distinct⟩
      · rw [hcallbacks, List.filter_append, List.filter_cons_of_pos his]
        simp [pendingCallbacks]
      · rw [hidents, List.filter_append,
          List.filter_cons_of_neg (by simp [Response.hasIdent_eq_false his])]
        simp [pendingIdents, hindex]
      · intro r' hr'
        rcases List.mem_append.mp hr' with hr' | hr'
        · exact h.dispatched r' hr'
        · obtain rfl := List.mem_singleton.mp hr'
          exact hmem
      · intro x hx
        obtain ⟨r', hr', hident, rfl⟩ | hresult := h.returned x hx
        · exact .inl ⟨r', List.mem_append_left _ hr', hident, rfl⟩
        · exact .inr hresult
    · rw [if_neg hcallback]
      have hnot : ¬ r.isCallback = true := fun his => hcallback (Response.isCallback_iff.mp his)
      rw [List.filter_cons_of_neg hnot] at hcallbacks
      exact ⟨h.sound, h.dispatchable, hcallbacks, h.idents, h.dispatched, h.returned, nofun,
        ⟨hindex, hresult⟩, h.distinct⟩

theorem filter_modify {α : Type} (p : α → Bool) (f : α → α) (xs : List α) {i : Nat} {x : α}
    (hi : xs[i]? = some x) (hx : p x = false) (hf : p (f x) = false) :
    (xs.modify i f).filter p = xs.filter p := by
  induction xs generalizing i with
  | nil => cases hi
  | cons y xs ih =>
    cases i with
    | zero =>
      obtain rfl := Option.some.inj hi
      rw [List.modify_zero_cons, List.filter_cons_of_neg (by simp [hf]),
        List.filter_cons_of_neg (by simp [hx])]
    | succ i =>
      rw [List.modify_succ_cons, List.filter_cons, List.filter_cons, ih hi]

theorem map_modify {α β : Type} {f : α → α} {g : α → β} (h : ∀ x, g (f x) = g x) (xs : List α)
    (i : Nat) : (xs.modify i f).map g = xs.map g := by
  induction xs generalizing i with
  | nil => simp
  | cons x xs ih =>
    cases i with
    | zero => rw [List.modify_zero_cons, List.map_cons, List.map_cons, h]
    | succ i => rw [List.modify_succ_cons, List.map_cons, List.map_cons, ih]

theorem frame_answered_responses (i : Nat) (callbackResult : Int) (granted : Bool)
    {r : Response γ δ} (hr : w.looper.mResponses[i]? = some r) :
    (w.answered i callbackResult granted).looper.mResponses =
        w.looper.mResponses.modify i clearCallback ∧
      (w.answered i callbackResult granted).looper.mResponseIndex = w.looper.mResponseIndex ∧
      (w.answered i callbackResult granted).collected = w.collected ∧
      (w.answered i callbackResult granted).dispatched = w.dispatched ∧
      (w.answered i callbackResult granted).returned = w.returned ∧
      (w.answered i callbackResult granted).phase = .responding (i + 1) pollCallback := by
  unfold answered
  rw [hr]
  dsimp only
  by_cases hzero : callbackResult = 0
  · rw [if_pos hzero]
    unfold removeFd
    obtain ⟨x, heq⟩ | ⟨k', -, -, heq⟩ :=
      Looper.removeFd_cases (l := w.looper) w.kernel r.request.fd granted
    · rw [heq]
      exact ⟨rfl, rfl, rfl, rfl, rfl, rfl⟩
    · rw [heq]
      exact ⟨rfl, rfl, rfl, rfl, rfl, rfl⟩
  · rw [if_neg hzero]
    exact ⟨rfl, rfl, rfl, rfl, rfl, rfl⟩

theorem Dispatching.answered (h : w.Dispatching) {i : Nat} {callbackResult : Int} {granted : Bool}
    (hphase : w.phase = .calling i) : (w.answered i callbackResult granted).Dispatching := by
  have hcallbacks := h.callbacks
  have hok := h.phase
  simp only [pendingCallbacks, PhaseOk, hphase] at hcallbacks hok
  obtain ⟨hindex, r, hr, his⟩ := hok
  have hsound : (w.answered i callbackResult granted).watch.Sound :=
    h.sound.rewatch (rewatch_answered (e := .tick 0) (by simp) i callbackResult granted)
  obtain ⟨hresponses, hindex', hcollected, hdispatched, hreturned, hphase'⟩ :=
    frame_answered_responses (w := w) i callbackResult granted hr
  have hidents := h.idents
  rw [pendingIdents, hindex, List.drop_zero] at hidents
  refine ⟨hsound, ?_, ?_, ?_, ?_, ?_, ?_, ?_, ?_⟩
  · rw [hcollected]
    exact h.dispatchable
  · simp only [pendingCallbacks, hphase', hcollected, hdispatched, hresponses]
    rw [hcallbacks, List.drop_modify_of_lt clearCallback i (i + 1) _ (Nat.lt_succ_self i)]
  · have hnone := Response.hasIdent_eq_false his
    rw [pendingIdents, hcollected, hdispatched, hresponses, hindex', hindex, List.drop_zero,
      filter_modify Response.hasIdent clearCallback _ hr hnone hnone]
    exact hidents
  · rw [hcollected, hdispatched]
    exact h.dispatched
  · rw [hreturned, hdispatched]
    exact h.returned
  · rw [hphase']
    exact nofun
  · simp only [PhaseOk, hphase', hindex']
    exact ⟨hindex, .inr (.inl rfl)⟩
  · have hmap : (w.looper.mResponses.modify i clearCallback).map (fun r => r.request.fd) =
        w.looper.mResponses.map fun r => r.request.fd := by
      exact map_modify (f := clearCallback) (g := fun r => r.request.fd) (fun _ => rfl) _ i
    rw [hresponses, hmap]
    exact h.distinct

theorem Dispatching.waited (h : w.Dispatching) {t now : Int} (hphase : w.phase = .waiting t now)
    {wait : Wait} (hreport : w.kernel.CanReport t wait) :
    Dispatching { w with
      looper := { w.looper with mPolling := false }
      phase := .polled wait } := by
  have hcallbacks := h.callbacks
  have hok := h.phase
  simp only [pendingCallbacks, PhaseOk, hphase] at hcallbacks hok
  refine ⟨h.sound, h.dispatchable, hcallbacks, h.idents, h.dispatched, h.returned, nofun,
    ⟨hok, ?_⟩, h.distinct⟩
  rintro items rfl
  exact hreport.2.2.1

variable [DecidableEq η]

theorem Dispatching.step {e : Event η γ δ} (h : w.Dispatching) (hs : w.step D e = some w') :
    w'.Dispatching := by
  have hsound : w'.watch.Sound := h.sound.rewatch (step_rewatch hs)
  cases e with
  | pollOnce timeoutMillis =>
    obtain ⟨hidle, rfl⟩ := step_pollOnce.mp hs
    have h₁ : Dispatching { w with timeoutMillis := timeoutMillis } :=
      h.of_same h.sound rfl rfl ⟨rfl, rfl, rfl⟩ rfl
    refine h₁.turn ?_ (.inl rfl)
    simp [pendingCallbacks, hidle]
  | waited wait =>
    obtain ⟨t, now, hphase, hreport, rfl⟩ := step_waited.mp hs
    exact h.waited hphase hreport
  | locked =>
    obtain ⟨wait, hphase, rfl⟩ := step_locked.mp hs
    exact h.lock hphase
  | handled =>
    obtain ⟨⟨e, hphase⟩, rfl⟩ := step_handled.mp hs
    exact h.handled hphase
  | respond =>
    obtain ⟨i, result, hphase, rfl⟩ := step_respond.mp hs
    exact h.respond hphase
  | answered callbackResult granted =>
    obtain ⟨i, hphase, rfl⟩ := step_answered.mp hs
    exact h.answered hphase
  | sendMessageAtTime e =>
    obtain rfl := Option.some.inj hs
    have hlooper : (w.looper.sendMessageAtTime e).1.mResponses = w.looper.mResponses ∧
        (w.looper.sendMessageAtTime e).1.mResponseIndex = w.looper.mResponseIndex := by
      unfold Looper.sendMessageAtTime
      dsimp only
      split
      · exact ⟨rfl, rfl⟩
      · exact ⟨rfl, rfl⟩
    exact h.of_same hsound hlooper.1 hlooper.2 ⟨rfl, rfl, rfl⟩ rfl
  | wakeAfterSend =>
    obtain ⟨-, rfl⟩ := step_wakeAfterSend.mp hs
    exact h.of_same hsound rfl rfl ⟨rfl, rfl, rfl⟩ rfl
  | wake =>
    obtain rfl := Option.some.inj hs
    exact h.of_same hsound rfl rfl ⟨rfl, rfl, rfl⟩ rfl
  | removeMessages handler what =>
    obtain rfl := Option.some.inj hs
    exact h.of_same hsound rfl rfl ⟨rfl, rfl, rfl⟩ rfl
  | addFd fd ident events callback data granted =>
    obtain rfl := Option.some.inj hs
    have hlooper : (w.addFd fd ident events callback data granted).looper.mResponses =
          w.looper.mResponses ∧
        (w.addFd fd ident events callback data granted).looper.mResponseIndex =
          w.looper.mResponseIndex := by
      unfold World.addFd
      obtain heq | ⟨k', request, -, -, heq⟩ :=
        Looper.addFd_cases (l := w.looper) w.kernel fd ident events callback data granted
      · rw [heq]
        exact ⟨rfl, rfl⟩
      · rw [heq]
        exact ⟨rfl, rfl⟩
    exact h.of_same hsound hlooper.1 hlooper.2 ⟨rfl, rfl, rfl⟩ rfl
  | removeFd fd granted =>
    obtain rfl := Option.some.inj hs
    have hlooper : (w.removeFd fd granted).looper.mResponses = w.looper.mResponses ∧
        (w.removeFd fd granted).looper.mResponseIndex = w.looper.mResponseIndex := by
      unfold World.removeFd
      obtain ⟨x, heq⟩ | ⟨k', -, -, heq⟩ :=
        Looper.removeFd_cases (l := w.looper) w.kernel fd granted
      · rw [heq]
        exact ⟨rfl, rfl⟩
      · rw [heq]
        exact ⟨rfl, rfl⟩
    exact h.of_same hsound hlooper.1 hlooper.2 ⟨rfl, rfl, rfl⟩ rfl
  | close fd =>
    obtain ⟨-, rfl⟩ := step_close.mp hs
    exact h.of_same hsound rfl rfl ⟨rfl, rfl, rfl⟩ rfl
  | tick now =>
    obtain ⟨-, rfl⟩ := step_tick.mp hs
    exact h.of_same hsound rfl rfl ⟨rfl, rfl, rfl⟩ rfl

/-! ## Runs -/

theorem dispatching_of_steps {allowNonCallbacks : Bool} {wakeFd clock : Int}
    {es : List (Event η γ δ)} (hrun : Steps (step D) (new allowNonCallbacks wakeFd clock) es w) :
    w.Dispatching := by
  have hkeep : ∀ (s : World η γ δ) e s', s.Dispatching → s.step D e = some s' → s'.Dispatching := by
    intro s e s' h hs
    exact h.step hs
  refine hrun.invariant hkeep ?_
  exact ⟨sound_new allowNonCallbacks wakeFd clock, nofun, rfl, rfl, nofun, nofun, nofun, trivial,
    List.nodup_nil⟩

/-- Whatever the threads do: what a poll reports for a descriptor is dispatched once, after what
has been reported before of its kind. A response with a callback goes to it, and the callback is
there; the others are returned one by one. -/
theorem responses_dispatched {allowNonCallbacks : Bool} {wakeFd clock : Int}
    {es : List (Event η γ δ)} (hrun : Steps (step D) (new allowNonCallbacks wakeFd clock) es w) :
    w.collected.filter Response.isCallback =
        w.dispatched.filter Response.isCallback ++ w.pendingCallbacks ∧
      w.collected.filter Response.hasIdent =
        w.dispatched.filter Response.hasIdent ++ w.pendingIdents ∧
      ∀ r ∈ w.dispatched, r.Dispatchable := by
  have h := dispatching_of_steps hrun
  exact ⟨h.callbacks, h.idents, fun r hr => h.dispatchable r (h.dispatched r hr)⟩

/-- A list of responses of the two kinds. -/
theorem filter_kinds_perm {rs : List (Response γ δ)} (h : ∀ r ∈ rs, r.Dispatchable) :
    (rs.filter Response.isCallback ++ rs.filter Response.hasIdent).Perm rs := by
  have hother : rs.filter Response.hasIdent = rs.filter fun r => !r.isCallback :=
    List.filter_congr fun r hr => (h r hr).hasIdent_eq
  rw [hother]
  exact List.filter_append_perm Response.isCallback rs

/-- A call of `pollOnce` returns the identifier of a response with its data, or one of the results
of a poll without any. In the second case all that has been reported has been dispatched. -/
theorem returned_means {allowNonCallbacks : Bool} {wakeFd clock : Int}
    {es : List (Event η γ δ)} (hrun : Steps (step D) (new allowNonCallbacks wakeFd clock) es w) :
    (∀ x ∈ w.returned, (∃ r ∈ w.dispatched, r.hasIdent = true ∧ x = .ofResponse r) ∨
      ∃ result, IsResult result ∧ x = ⟨result, 0, 0, none⟩) ∧
    (w.phase = .idle → ∀ x, w.returned.getLast? = some x → x.result < 0 →
      w.collected.Perm w.dispatched) := by
  have h := dispatching_of_steps hrun
  refine ⟨h.returned, ?_⟩
  intro hidle x hx hneg
  have hcallbacks := h.callbacks
  have hidents := h.idents
  rw [h.exhausted hidle x hx hneg, List.append_nil] at hidents
  simp only [pendingCallbacks, hidle, List.append_nil] at hcallbacks
  have hcollected := filter_kinds_perm h.dispatchable
  have hdispatched := filter_kinds_perm fun r hr => h.dispatchable r (h.dispatched r hr)
  rw [hcallbacks, hidents] at hcollected
  exact hcollected.symm.trans hdispatched

/-- A descriptor has a callback and another one an identifier, and both are reported. -/
def twoResponses : List (Event Bool Unit Unit) :=
  [.addFd 5 0 1 (some ()) () true, .addFd 6 7 1 none () true, .pollOnce (-1),
    .waited (.ready [(6, 1), (5, 1)]), .locked, .respond, .respond, .answered 1 true, .respond]

theorem twoResponses_isSome :
    (twoResponses.foldlM (step millisDelay) (new true 3 0)).isSome = true := by decide +kernel

def bothDispatched : World Bool Unit Unit :=
  (twoResponses.foldlM (step millisDelay) (new true 3 0)).get twoResponses_isSome

theorem twoResponses_run :
    Steps (step millisDelay) (new true 3 0) twoResponses bothDispatched :=
  steps_iff_foldlM.mpr (Option.some_get twoResponses_isSome).symm

theorem responses_dispatched_twoResponses :
    bothDispatched.collected.filter Response.isCallback =
      bothDispatched.dispatched.filter Response.isCallback ++ bothDispatched.pendingCallbacks :=
  (responses_dispatched twoResponses_run).1

theorem returned_means_twoResponses : ∃ x ∈ bothDispatched.returned,
    (∃ r ∈ bothDispatched.dispatched, r.hasIdent = true ∧ x = .ofResponse r) ∨
      ∃ result, IsResult result ∧ x = ⟨result, 0, 0, none⟩ := by
  have hlen : 0 < bothDispatched.returned.length := by decide +kernel
  have hmem := List.getElem_mem hlen
  exact ⟨_, hmem, (returned_means twoResponses_run).1 _ hmem⟩

end World
end Polling
end Huashan
