import Huashan.Polling.Looper
import Huashan.Run

/-!
# Huashan.Polling.Requests

The requests of the looper and the descriptors that its epoll instance watches.

* `watched_iff`: they are the same as long as no file is closed while its descriptor has a request.
* `stale_forever`: a descriptor that is closed all the same is lost to the looper for good.
-/

namespace Huashan
namespace Polling

variable {η γ δ : Type}

/-- What matters to the requests. -/
structure Watch (γ δ : Type) where
  requests : Int → Option (Request γ δ)
  interest : Int → Option (BitVec 32)
  wakeFd : Int
  allowNonCallbacks : Bool

namespace Watch

/-- Another request for a descriptor, and other events for which it is watched. -/
def setAt (v : Watch γ δ) (fd : Int) (request : Option (Request γ δ)) (mask : Option (BitVec 32)) :
    Watch γ δ :=
  { v with
    requests := Function.update v.requests fd request
    interest := Function.update v.interest fd mask }

@[simp] theorem setAt_requests_self (v : Watch γ δ) (fd : Int) (request : Option (Request γ δ))
    (mask : Option (BitVec 32)) : (v.setAt fd request mask).requests fd = request :=
  Function.update_self ..

@[simp] theorem setAt_interest_self (v : Watch γ δ) (fd : Int) (request : Option (Request γ δ))
    (mask : Option (BitVec 32)) : (v.setAt fd request mask).interest fd = mask :=
  Function.update_self ..

theorem setAt_of_ne (v : Watch γ δ) {fd fd' : Int} (request : Option (Request γ δ))
    (mask : Option (BitVec 32)) (h : fd' ≠ fd) :
    (v.setAt fd request mask).requests fd' = v.requests fd' ∧
      (v.setAt fd request mask).interest fd' = v.interest fd' :=
  ⟨Function.update_of_ne h .., Function.update_of_ne h ..⟩

end Watch

/-- What an event can do to the requests. -/
inductive Rewatch : Event η γ δ → Watch γ δ → Watch γ δ → Prop where
  | same {e : Event η γ δ} {v : Watch γ δ} : (∀ fd, e ≠ .close fd) → Rewatch e v v
  | set {v : Watch γ δ} {fd ident : Int} {events mask : BitVec 32} {callback : Option γ}
      {data : δ} {granted : Bool} {request : Request γ δ} :
      request.WellFormed fd v.allowNonCallbacks →
      ((v.interest fd).isNone = true ↔ (v.requests fd).isNone = true) →
      Rewatch (.addFd fd ident events callback data granted) v
        (v.setAt fd (some request) (some mask))
  | del {e : Event η γ δ} {v : Watch γ δ} {fd : Int} : (∀ fd, e ≠ .close fd) →
      (v.requests fd).isSome = true → (v.interest fd).isSome = true →
      Rewatch e v (v.setAt fd none none)
  | close {v : Watch γ δ} {fd : Int} : fd ≠ v.wakeFd →
      Rewatch (.close fd) v (v.setAt fd (v.requests fd) none)

namespace World

variable {D : Delay} {w w' : World η γ δ}

def watch (w : World η γ δ) : Watch γ δ :=
  ⟨w.looper.mRequests, w.kernel.interest, w.looper.mWakeReadPipeFd, w.looper.mAllowNonCallbacks⟩

theorem watch_handleItem (item : Int × BitVec 32) : (w.handleItem item).watch = w.watch := by
  unfold handleItem
  split
  · split
    · rfl
    · rfl
  · split
    · rfl
    · rfl

theorem watch_foldl (items : List (Int × BitVec 32)) :
    (items.foldl handleItem w).watch = w.watch := by
  induction items generalizing w with
  | nil => rfl
  | cons item items ih => rw [List.foldl_cons, ih, watch_handleItem]

theorem watch_nextMessage (result : Int) : (w.nextMessage result).watch = w.watch := by
  unfold nextMessage
  split
  · rfl
  · split
    · rfl
    · rfl

theorem watch_lock (wait : Wait) : (w.lock wait).watch = w.watch := by
  unfold lock done
  split
  · exact watch_nextMessage _
  · exact watch_nextMessage _
  · exact watch_nextMessage _
  · exact (watch_nextMessage _).trans (watch_foldl _)

theorem watch_turn (result : Int) : (w.turn D result).watch = w.watch := by
  unfold turn
  simp only []
  split
  · rfl
  · split
    · rfl
    · rfl

theorem watch_respond (i : Nat) (result : Int) : (w.respond D i result).watch = w.watch := by
  unfold respond
  split
  · split
    · rfl
    · rfl
  · exact watch_turn result

theorem rewatch_addFd (fd ident : Int) (events : BitVec 32) (callback : Option γ) (data : δ)
    (granted : Bool) : Rewatch (η := η) (.addFd fd ident events callback data granted) w.watch
      (w.addFd fd ident events callback data granted).watch := by
  unfold addFd
  obtain heq | ⟨k', request, hformed, hctl, heq⟩ :=
    Looper.addFd_cases (l := w.looper) w.kernel fd ident events callback data granted
  · rw [heq]
    exact .same (by simp)
  · obtain ⟨⟨-, hiff⟩, rfl⟩ := Kernel.epollCtl_eq_some.mp hctl
    rw [heq]
    cases hr : w.looper.mRequests fd with
    | none =>
      simp only [hr, Option.isNone_none, if_true, iff_true] at hiff ⊢
      exact .set hformed (by simp [watch, hr, hiff])
    | some r =>
      simp only [hr, Option.isNone_some, Bool.false_eq_true, if_false, reduceCtorEq,
        iff_false] at hiff ⊢
      exact .set hformed (by simp [watch, hr, hiff])

theorem rewatch_removeFd {e : Event η γ δ} (he : ∀ fd, e ≠ .close fd) (fd : Int)
    (granted : Bool) : Rewatch e w.watch (w.removeFd fd granted).watch := by
  unfold removeFd
  obtain ⟨r, heq⟩ | ⟨k', hctl, hsome, heq⟩ :=
    Looper.removeFd_cases (l := w.looper) w.kernel fd granted
  · rw [heq]
    exact .same he
  · obtain ⟨⟨-, hiff⟩, rfl⟩ := Kernel.epollCtl_eq_some.mp hctl
    rw [heq]
    refine .del he hsome ?_
    cases hi : w.kernel.interest fd with
    | none => simp [hi] at hiff
    | some mask => simp [watch, hi]

theorem rewatch_answered {e : Event η γ δ} (he : ∀ fd, e ≠ .close fd) (i : Nat)
    (callbackResult : Int) (granted : Bool) :
    Rewatch e w.watch (w.answered i callbackResult granted).watch := by
  unfold answered
  cases w.looper.mResponses[i]? with
  | none => exact .same he
  | some r =>
    dsimp only
    split
    · exact rewatch_removeFd he r.request.fd granted
    · exact .same he

variable [DecidableEq η]

theorem step_rewatch {e : Event η γ δ} (h : w.step D e = some w') :
    Rewatch e w.watch w'.watch := by
  have hsame : w'.watch = w.watch → (∀ fd, e ≠ .close fd) → Rewatch e w.watch w'.watch := by
    intro heq he
    rw [heq]
    exact .same he
  cases e with
  | pollOnce timeoutMillis =>
    obtain ⟨-, rfl⟩ := step_pollOnce.mp h
    exact hsame (watch_turn 0) (by simp)
  | waited wait =>
    obtain ⟨t, now, -, -, rfl⟩ := step_waited.mp h
    exact hsame rfl (by simp)
  | locked =>
    obtain ⟨wait, -, rfl⟩ := step_locked.mp h
    exact hsame (watch_lock wait) (by simp)
  | handled =>
    obtain ⟨-, rfl⟩ := step_handled.mp h
    exact hsame (watch_nextMessage _) (by simp)
  | respond =>
    obtain ⟨i, result, -, rfl⟩ := step_respond.mp h
    exact hsame (watch_respond i result) (by simp)
  | answered callbackResult granted =>
    obtain ⟨i, -, rfl⟩ := step_answered.mp h
    exact rewatch_answered (by simp) i callbackResult granted
  | sendMessageAtTime e =>
    obtain rfl := Option.some.inj h
    refine hsame ?_ (by simp)
    unfold sendMessageAtTime Looper.sendMessageAtTime
    dsimp only
    split
    · rfl
    · rfl
  | wakeAfterSend =>
    obtain ⟨-, rfl⟩ := step_wakeAfterSend.mp h
    exact hsame (by simp [watch, Kernel.wake_frame]) (by simp)
  | wake =>
    obtain rfl := Option.some.inj h
    exact hsame (by simp [watch, Kernel.wake_frame]) (by simp)
  | removeMessages handler what =>
    obtain rfl := Option.some.inj h
    exact hsame rfl (by simp)
  | addFd fd ident events callback data granted =>
    obtain rfl := Option.some.inj h
    exact rewatch_addFd fd ident events callback data granted
  | removeFd fd granted =>
    obtain rfl := Option.some.inj h
    exact rewatch_removeFd (by simp) fd granted
  | close fd =>
    obtain ⟨hfd, rfl⟩ := step_close.mp h
    have hclosed : w.watch.setAt fd (w.watch.requests fd) none =
        { w.watch with interest := Function.update w.watch.interest fd none } := by
      simp [Watch.setAt]
    have hstep : Rewatch (η := η) (.close fd) w.watch
        (w.watch.setAt fd (w.watch.requests fd) none) := .close hfd
    rw [hclosed] at hstep
    exact hstep
  | tick now =>
    obtain ⟨-, rfl⟩ := step_tick.mp h
    exact hsame rfl (by simp)

end World

/-! ## Requests and descriptors -/

namespace Watch

variable {v v' : Watch γ δ} {e : Event η γ δ}

/-- The wake pipe is watched and has no request, and what else is watched has one. -/
structure Sound (v : Watch γ δ) : Prop where
  wake : v.interest v.wakeFd = some epollIn
  own : v.requests v.wakeFd = none
  formed : ∀ fd r, v.requests fd = some r → r.WellFormed fd v.allowNonCallbacks
  known : ∀ fd, fd ≠ v.wakeFd → (v.interest fd).isSome = true → (v.requests fd).isSome = true

/-- The descriptors that are watched are the wake pipe and those that have a request. -/
def Complete (v : Watch γ δ) : Prop :=
  ∀ fd, (v.interest fd).isSome = true ↔ fd = v.wakeFd ∨ (v.requests fd).isSome = true

theorem Sound.setAt (h : v.Sound) {fd : Int} {request : Option (Request γ δ)}
    {mask : Option (BitVec 32)} (hfd : fd ≠ v.wakeFd)
    (hformed : ∀ r, request = some r → r.WellFormed fd v.allowNonCallbacks)
    (hknown : mask.isSome = true → request.isSome = true) : (v.setAt fd request mask).Sound := by
  refine ⟨?_, ?_, ?_, ?_⟩
  · exact (v.setAt_of_ne request mask hfd.symm).2.trans h.wake
  · exact (v.setAt_of_ne request mask hfd.symm).1.trans h.own
  · intro fd' r hr
    by_cases heq : fd' = fd
    · subst heq
      rw [setAt_requests_self] at hr
      exact hformed r hr
    · rw [(v.setAt_of_ne request mask heq).1] at hr
      exact h.formed fd' r hr
  · intro fd' hne hi
    by_cases heq : fd' = fd
    · subst heq
      rw [setAt_interest_self] at hi
      rw [setAt_requests_self]
      exact hknown hi
    · rw [(v.setAt_of_ne request mask heq).2] at hi
      rw [(v.setAt_of_ne request mask heq).1]
      exact h.known fd' hne hi

/-- The wake pipe is not added again. -/
theorem Sound.ne_wakeFd (h : v.Sound) {fd : Int}
    (hiff : (v.interest fd).isNone = true ↔ (v.requests fd).isNone = true) : fd ≠ v.wakeFd := by
  rintro rfl
  simp [h.wake, h.own] at hiff

theorem Sound.ne_wakeFd_of_isSome (h : v.Sound) {fd : Int}
    (hsome : (v.requests fd).isSome = true) : fd ≠ v.wakeFd := by
  rintro rfl
  simp [h.own] at hsome

theorem Sound.rewatch (h : v.Sound) (hs : Rewatch e v v') : v'.Sound := by
  cases hs with
  | same _ => exact h
  | set hformed hiff =>
    refine h.setAt (h.ne_wakeFd hiff) ?_ fun _ => rfl
    rintro r hr
    obtain rfl := Option.some.inj hr
    exact hformed
  | del _ hr _ => exact h.setAt (h.ne_wakeFd_of_isSome hr) nofun nofun
  | close hfd => exact h.setAt hfd (fun r hr => h.formed _ r hr) nofun

theorem Complete.setAt_iff (h : v.Complete) {fd : Int} (hfd : fd ≠ v.wakeFd)
    (request : Option (Request γ δ)) (mask : Option (BitVec 32)) :
    (v.setAt fd request mask).Complete ↔ (mask.isSome = true ↔ request.isSome = true) := by
  constructor
  · intro h'
    have hself := h' fd
    rw [setAt_interest_self, setAt_requests_self] at hself
    exact hself.trans (or_iff_right hfd)
  · intro hiff fd'
    by_cases heq : fd' = fd
    · subst heq
      rw [setAt_interest_self, setAt_requests_self]
      exact hiff.trans (or_iff_right hfd).symm
    · rw [(v.setAt_of_ne request mask heq).1, (v.setAt_of_ne request mask heq).2]
      exact h fd'

/-- What is watched stays the same as the requests exactly when no descriptor with a request is
closed. -/
theorem Complete.rewatch_iff (h : v.Complete) (hv : v.Sound) (hs : Rewatch e v v') :
    v'.Complete ↔ ∀ fd, e = .close fd → v.requests fd = none := by
  cases hs with
  | same he => exact ⟨fun _ fd hfd => (he fd hfd).elim, fun _ => h⟩
  | set hformed hiff =>
    rw [h.setAt_iff (hv.ne_wakeFd hiff)]
    exact ⟨fun _ => by simp, fun _ => by simp⟩
  | del he hr hi =>
    rw [h.setAt_iff (hv.ne_wakeFd_of_isSome hr)]
    exact ⟨fun _ fd hfd => (he fd hfd).elim, fun _ => Iff.rfl⟩
  | @close _ fd hfd =>
    rw [h.setAt_iff hfd]
    constructor
    · intro hiff fd' heq
      cases heq
      simpa using hiff
    · intro hnone
      simp [hnone fd rfl]

/-- A descriptor that has a request and is not watched. -/
def Stale (v : Watch γ δ) (fd : Int) : Prop :=
  (v.requests fd).isSome = true ∧ v.interest fd = none

theorem Stale.rewatch {fd : Int} (h : v.Stale fd) (hs : Rewatch e v v') : v'.Stale fd := by
  obtain ⟨hsome, hnone⟩ := h
  have hother : ∀ {fd' : Int} {request : Option (Request γ δ)} {mask : Option (BitVec 32)},
      fd ≠ fd' → (v.setAt fd' request mask).Stale fd := by
    intro fd' request mask hne
    rw [Stale, (v.setAt_of_ne request mask hne).1, (v.setAt_of_ne request mask hne).2]
    exact ⟨hsome, hnone⟩
  cases hs with
  | same _ => exact ⟨hsome, hnone⟩
  | set _ hiff =>
    refine hother ?_
    rintro rfl
    have hr : v.requests fd = none := by simpa [hnone] using hiff
    simp [hr] at hsome
  | del _ _ hi =>
    refine hother ?_
    rintro rfl
    simp [hnone] at hi
  | @close _ fd' _ =>
    by_cases hfd : fd = fd'
    · subst hfd
      exact ⟨by simpa using hsome, by simp⟩
    · exact hother hfd

end Watch

/-! ## Runs -/

namespace World

variable {D : Delay} {w w' : World η γ δ}

theorem sound_new (allowNonCallbacks : Bool) (wakeFd clock : Int) :
    (new allowNonCallbacks wakeFd clock : World η γ δ).watch.Sound := by
  refine ⟨?_, rfl, nofun, ?_⟩
  · simp [watch, new]
  · intro fd hfd hi
    have hne : fd ≠ wakeFd := hfd
    simp [watch, new, Function.update_of_ne hne] at hi

theorem complete_new (allowNonCallbacks : Bool) (wakeFd clock : Int) :
    (new allowNonCallbacks wakeFd clock : World η γ δ).watch.Complete := by
  intro fd
  by_cases hfd : fd = wakeFd
  · subst hfd
    simp [watch, new]
  · simp [watch, new, hfd]

variable [DecidableEq η]

/-- The descriptors that are watched are those with a request, and the wake pipe, all along a run
exactly when no descriptor is closed while it has a request. -/
theorem watched_iff (allowNonCallbacks : Bool) (wakeFd clock : Int) (es : List (Event η γ δ)) :
    Always (fun w => w.watch.Complete) (step D) (new allowNonCallbacks wakeFd clock) es ↔
      AllMeet (fun w e => ∀ fd, e = .close fd → w.looper.mRequests fd = none) (step D)
        (new allowNonCallbacks wakeFd clock) es := by
  refine always_iff_allMeet (fun w : World η γ δ => w.watch.Sound ∧ w.watch.Complete) ?_ ?_
    ⟨sound_new allowNonCallbacks wakeFd clock, complete_new allowNonCallbacks wakeFd clock⟩
  · rintro w e w' ⟨hsound, hcomplete⟩ hclosed hs
    have hrewatch := step_rewatch hs
    exact ⟨hsound.rewatch hrewatch, (hcomplete.rewatch_iff hsound hrewatch).mpr hclosed⟩
  · rintro w e w' ⟨hsound, hcomplete⟩ hs
    exact hcomplete.rewatch_iff hsound (step_rewatch hs)

end World

end Polling
end Huashan
