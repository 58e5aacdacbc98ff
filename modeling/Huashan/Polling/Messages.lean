import Huashan.Polling.Looper

/-!
# Huashan.Polling.Messages

What becomes of the messages. `messages_are_mailbox`: whatever the threads do, the messages that
wait are a mailbox. `messages_accounted`: no message is lost, and none is delivered twice.
-/

namespace Huashan
namespace Polling

variable {η γ δ : Type}

/-! ## The queue -/

/-- The loop of `sendMessageAtTime` finds the place of a message in a line. -/
theorem insertIdx_insertionIndex (e : MessageEnvelope η) (es : List (MessageEnvelope η)) :
    es.insertIdx (insertionIndex e.uptime es) e =
      Mailbox.enqueue MessageEnvelope.uptime e es := by
  induction es with
  | nil => rfl
  | cons f es ih =>
    rw [insertionIndex, Mailbox.enqueue, List.takeWhile_cons, List.dropWhile_cons]
    by_cases hf : f.uptime ≤ e.uptime
    · simpa [hf, Mailbox.enqueue] using ih
    · simp [hf]

theorem removeFrom_eq (p : MessageEnvelope η → Bool) {i : Nat} {es : List (MessageEnvelope η)}
    (hi : i ≤ es.length) : removeFrom p i es = (es.take i).filter (fun e => !p e) ++ es.drop i := by
  induction i generalizing es with
  | zero => simp [removeFrom]
  | succ i ih =>
    have hlt : i < es.length := by omega
    have htake : es.take (i + 1) = es.take i ++ [es[i]] := (List.take_append_getElem hlt).symm
    rw [removeFrom, List.getElem?_eq_getElem hlt, htake, List.filter_append]
    cases hp : p es[i] with
    | true =>
      have hlen : i ≤ (es.eraseIdx i).length := by
        rw [List.length_eraseIdx_of_lt hlt]
        omega
      have hkept : (es.eraseIdx i).take i = es.take i := by
        rw [List.eraseIdx_eq_take_drop_succ, List.take_left' (List.length_take_of_le hlt.le)]
      have hbehind : (es.eraseIdx i).drop i = es.drop (i + 1) := by
        rw [List.eraseIdx_eq_take_drop_succ, List.drop_left' (List.length_take_of_le hlt.le)]
      simp only [hp, if_true]
      rw [ih hlen, hkept, hbehind]
      simp [hp]
    | false =>
      simp only [hp, Bool.false_eq_true, if_false]
      rw [ih hlt.le, List.drop_eq_getElem_cons hlt]
      simp [hp]

theorem removeFrom_length (p : MessageEnvelope η → Bool) (es : List (MessageEnvelope η)) :
    removeFrom p es.length es = es.filter fun e => !p e := by
  rw [removeFrom_eq p le_rfl]
  simp

namespace Looper

variable (l : Looper η γ δ)

theorem fst_sendMessageAtTime (e : MessageEnvelope η) : (l.sendMessageAtTime e).1 =
    { l with
      mMessageEnvelopes := Mailbox.enqueue MessageEnvelope.uptime e l.mMessageEnvelopes } := by
  rw [← insertIdx_insertionIndex]
  unfold sendMessageAtTime
  split
  · rfl
  · rfl

theorem mMessageEnvelopes_removeMessages [DecidableEq η] (handler : η) (what : Option Int) :
    (l.removeMessages handler what).mMessageEnvelopes =
      l.mMessageEnvelopes.filter fun e => !isFor handler what e :=
  removeFrom_length (isFor handler what) l.mMessageEnvelopes

end Looper

namespace World

variable {D : Delay} {w w' : World η γ δ}

/-- What matters to the messages. -/
structure Mail (η : Type) where
  messages : List (MessageEnvelope η)
  sending : Bool
  next : Int
  clock : Int
  wakers : Nat
  history : List (Mailbox.Action Int (MessageEnvelope η))

def mail (w : World η γ δ) : Mail η :=
  ⟨w.looper.mMessageEnvelopes, w.looper.mSendingMessage, w.looper.mNextMessageUptime,
    w.kernel.clock, w.wakers, w.history⟩

theorem mail_handleItem (item : Int × BitVec 32) : (w.handleItem item).mail = w.mail := by
  unfold handleItem
  by_cases hwake : item.1 = w.looper.mWakeReadPipeFd
  · rw [if_pos hwake]
    split
    · rfl
    · rfl
  · rw [if_neg hwake]
    cases w.looper.mRequests item.1 with
    | none => rfl
    | some request => rfl

theorem mail_foldl (items : List (Int × BitVec 32)) :
    (items.foldl handleItem w).mail = w.mail := by
  induction items generalizing w with
  | nil => rfl
  | cons item items ih => rw [List.foldl_cons, ih, mail_handleItem]

theorem mail_turn (result : Int) : (w.turn D result).mail = w.mail := by
  unfold turn
  simp only []
  split
  · rfl
  · split
    · rfl
    · rfl

theorem kernel_turn (result : Int) : (w.turn D result).kernel = w.kernel := by
  unfold turn
  simp only []
  split
  · rfl
  · split
    · rfl
    · rfl

theorem phase_turn (result : Int) : (w.turn D result).phase = .idle ∨
    (w.turn D result).phase =
      .waiting (adjust D w.timeoutMillis w.kernel.clock w.looper.mNextMessageUptime)
        w.kernel.clock := by
  unfold turn
  simp only []
  split
  · exact .inl rfl
  · split
    · exact .inl rfl
    · exact .inr rfl

theorem frame_addFd (fd ident : Int) (events : BitVec 32) (callback : Option γ) (data : δ)
    (granted : Bool) : (w.addFd fd ident events callback data granted).mail = w.mail ∧
      (w.addFd fd ident events callback data granted).kernel.pipe = w.kernel.pipe ∧
      (w.addFd fd ident events callback data granted).phase = w.phase := by
  unfold addFd
  obtain heq | ⟨k', request, -, hctl, heq⟩ :=
    Looper.addFd_cases (l := w.looper) w.kernel fd ident events callback data granted
  · rw [heq]
    exact ⟨rfl, rfl, rfl⟩
  · obtain ⟨-, rfl⟩ := Kernel.epollCtl_eq_some.mp hctl
    rw [heq]
    exact ⟨rfl, rfl, rfl⟩

theorem frame_removeFd (fd : Int) (granted : Bool) : (w.removeFd fd granted).mail = w.mail ∧
    (w.removeFd fd granted).kernel.pipe = w.kernel.pipe ∧
    (w.removeFd fd granted).phase = w.phase := by
  unfold removeFd
  obtain ⟨r, heq⟩ | ⟨k', hctl, -, heq⟩ :=
    Looper.removeFd_cases (l := w.looper) w.kernel fd granted
  · rw [heq]
    exact ⟨rfl, rfl, rfl⟩
  · obtain ⟨-, rfl⟩ := Kernel.epollCtl_eq_some.mp hctl
    rw [heq]
    exact ⟨rfl, rfl, rfl⟩

theorem frame_answered (i : Nat) (callbackResult : Int) (granted : Bool) :
    (w.answered i callbackResult granted).mail = w.mail ∧
      (w.answered i callbackResult granted).kernel.pipe = w.kernel.pipe ∧
      ((w.answered i callbackResult granted).phase = w.phase ∨
        (w.answered i callbackResult granted).phase = .responding (i + 1) pollCallback) := by
  unfold answered
  cases w.looper.mResponses[i]? with
  | none => exact ⟨rfl, rfl, .inl rfl⟩
  | some r =>
    by_cases hr : callbackResult = 0
    · obtain ⟨hmail, hpipe, -⟩ := frame_removeFd (w := w) r.request.fd granted
      dsimp only
      rw [if_pos hr]
      exact ⟨hmail, hpipe, .inr rfl⟩
    · dsimp only
      rw [if_neg hr]
      exact ⟨rfl, rfl, .inr rfl⟩

theorem frame_respond (i : Nat) (result : Int) : (w.respond D i result).mail = w.mail ∧
    (w.respond D i result).kernel = w.kernel ∧
    ((∀ t now, (w.respond D i result).phase ≠ .waiting t now) ∧
        (∀ e, (w.respond D i result).phase ≠ .handling e) ∨
      w.respond D i result = w.turn D result) := by
  unfold respond
  cases w.looper.mResponses[i]? with
  | none => exact ⟨mail_turn result, kernel_turn result, .inr rfl⟩
  | some r =>
    by_cases hr : r.request.ident = pollCallback
    · dsimp only
      rw [if_pos hr]
      exact ⟨rfl, rfl, .inl ⟨nofun, nofun⟩⟩
    · dsimp only
      rw [if_neg hr]
      exact ⟨rfl, rfl, .inl ⟨nofun, nofun⟩⟩

/-- What a turn of the loop over the messages can do. -/
inductive Turned (w : World η γ δ) (result : Int) : World η γ δ → Prop where
  | empty : w.looper.mMessageEnvelopes = [] →
      Turned w result { w with phase := .responding 0 result }
  | deliver {e : MessageEnvelope η} {es : List (MessageEnvelope η)} :
      w.looper.mMessageEnvelopes = e :: es → e.uptime ≤ w.kernel.clock →
      Turned w result { w with
        looper := { w.looper with mMessageEnvelopes := es, mSendingMessage := true }
        phase := .handling e
        history := w.history ++ [.deliver w.kernel.clock e] }
  | wait {e : MessageEnvelope η} {es : List (MessageEnvelope η)} :
      w.looper.mMessageEnvelopes = e :: es →
      Turned w result { w with
        looper := { w.looper with mNextMessageUptime := e.uptime }
        phase := .responding 0 result }

theorem turned_nextMessage (w : World η γ δ) (result : Int) :
    Turned w result (w.nextMessage result) := by
  unfold nextMessage
  split
  · rename_i hes
    exact .empty hes
  · rename_i e es hes
    split
    · rename_i hdue
      exact .deliver hes hdue
    · exact .wait hes

/-- From where it takes the lock, `pollInner` goes to the loop over the messages. -/
theorem lock_eq (wait : Wait) : ∃ (w₁ : World η γ δ) (result : Int), w₁.mail = w.mail ∧
    w.lock wait = w₁.done result := by
  unfold lock
  split
  · exact ⟨w, _, rfl, rfl⟩
  · exact ⟨w, _, rfl, rfl⟩
  · exact ⟨w, _, rfl, rfl⟩
  · exact ⟨_, _, mail_foldl _, rfl⟩

/-! ## The mailbox -/

end World

def Event.sent? : Event η γ δ → Option (MessageEnvelope η)
  | .sendMessageAtTime e => some e
  | _ => none

namespace World

variable [DecidableEq η]

/-- What happened to the messages from `w` to `w'`, in the events `es`. -/
def Moves (es : List (Event η γ δ)) (w w' : World η γ δ) : Prop :=
  ∃ acts, w'.history = w.history ++ acts ∧
    Path (Mailbox.LineDoes MessageEnvelope.uptime) w.looper.mMessageEnvelopes acts
      w'.looper.mMessageEnvelopes ∧
    acts.filterMap Mailbox.Action.posted? = es.filterMap Event.sent? ∧
    ∀ p, .cancel p ∈ acts → ∃ handler what,
      .removeMessages handler what ∈ es ∧ p = isFor handler what

theorem Moves.trans {w₁ w₂ w₃ : World η γ δ} {es fs : List (Event η γ δ)} (h : Moves es w₁ w₂)
    (h' : Moves fs w₂ w₃) : Moves (es ++ fs) w₁ w₃ := by
  obtain ⟨acts, hhist, hpath, hsent, hcancel⟩ := h
  obtain ⟨acts', hhist', hpath', hsent', hcancel'⟩ := h'
  refine ⟨acts ++ acts', ?_, hpath.append hpath', ?_, ?_⟩
  · rw [hhist', hhist, List.append_assoc]
  · rw [List.filterMap_append, List.filterMap_append, hsent, hsent']
  · intro p hp
    rcases List.mem_append.mp hp with hp | hp
    · obtain ⟨handler, what, hmem, heq⟩ := hcancel p hp
      exact ⟨handler, what, List.mem_append_left fs hmem, heq⟩
    · obtain ⟨handler, what, hmem, heq⟩ := hcancel' p hp
      exact ⟨handler, what, List.mem_append_right es hmem, heq⟩

/-- An event that leaves the messages alone. -/
theorem Moves.same {e : Event η γ δ} (he : e.sent? = none)
    (hmessages : w'.looper.mMessageEnvelopes = w.looper.mMessageEnvelopes)
    (hhist : w'.history = w.history) : Moves [e] w w' := by
  refine ⟨[], by rw [hhist, List.append_nil], ?_, by simp [he], ?_⟩
  · rw [hmessages]
    exact .refl
  · intro p hp
    cases hp

theorem Moves.of_mail {e : Event η γ δ} (he : e.sent? = none) (h : w'.mail = w.mail) :
    Moves [e] w w' := Moves.same he (congrArg Mail.messages h) (congrArg Mail.history h)

theorem Moves.act {e : Event η γ δ} {act : Mailbox.Action Int (MessageEnvelope η)}
    (hhist : w'.history = w.history ++ [act])
    (hdoes : Mailbox.LineDoes MessageEnvelope.uptime w.looper.mMessageEnvelopes act
      w'.looper.mMessageEnvelopes)
    (hsent : act.posted? = e.sent?)
    (hcancel : ∀ p, act = .cancel p → ∃ handler what,
      e = .removeMessages handler what ∧ p = isFor handler what) : Moves [e] w w' := by
  refine ⟨[act], hhist, .cons hdoes .refl, by simp [List.filterMap_cons, hsent], ?_⟩
  intro p hp
  obtain ⟨handler, what, heq, hp⟩ := hcancel p (List.mem_singleton.mp hp).symm
  exact ⟨handler, what, List.mem_singleton.mpr heq.symm, hp⟩

theorem Turned.moves {e : Event η γ δ} {w₁ : World η γ δ} {result : Int}
    (h : Turned w₁ result w') (he : e.sent? = none)
    (hw : w₁.looper.mMessageEnvelopes = w.looper.mMessageEnvelopes ∧ w₁.history = w.history) :
    Moves [e] w w' := by
  obtain ⟨hmessages, hhist⟩ := hw
  cases h with
  | empty _ | wait _ => exact Moves.same he hmessages hhist
  | @deliver m ms hes hdue =>
    have hdelivered : w₁.history ++ [.deliver w₁.kernel.clock m] =
        w.history ++ [.deliver w₁.kernel.clock m] := by rw [hhist]
    refine Moves.act hdelivered ?_ he.symm ?_
    · rw [← hmessages, hes]
      exact .deliver hdue
    · intro p hp
      cases hp

theorem step_moves {e : Event η γ δ} (h : w.step D e = some w') : Moves [e] w w' := by
  cases e with
  | pollOnce timeoutMillis =>
    obtain ⟨-, rfl⟩ := step_pollOnce.mp h
    exact Moves.of_mail rfl (mail_turn 0)
  | waited wait =>
    obtain ⟨t, now, -, -, rfl⟩ := step_waited.mp h
    exact Moves.of_mail rfl rfl
  | locked =>
    obtain ⟨wait, -, rfl⟩ := step_locked.mp h
    obtain ⟨w₁, result, hmail, heq⟩ := lock_eq (w := w) wait
    rw [heq]
    exact (turned_nextMessage _ result).moves rfl
      ⟨congrArg Mail.messages hmail, congrArg Mail.history hmail⟩
  | handled =>
    obtain ⟨-, rfl⟩ := step_handled.mp h
    exact (turned_nextMessage _ _).moves rfl ⟨rfl, rfl⟩
  | respond =>
    obtain ⟨i, result, -, rfl⟩ := step_respond.mp h
    exact Moves.of_mail rfl (frame_respond i result).1
  | answered callbackResult granted =>
    obtain ⟨i, -, rfl⟩ := step_answered.mp h
    exact Moves.of_mail rfl (frame_answered i callbackResult granted).1
  | sendMessageAtTime e =>
    obtain rfl := Option.some.inj h
    refine Moves.act rfl ?_ rfl ?_
    · have hline := congrArg Looper.mMessageEnvelopes (w.looper.fst_sendMessageAtTime e)
      exact hline ▸ .post e
    · intro p hp
      cases hp
  | wakeAfterSend =>
    obtain ⟨-, rfl⟩ := step_wakeAfterSend.mp h
    exact Moves.same rfl rfl rfl
  | wake =>
    obtain rfl := Option.some.inj h
    exact Moves.same rfl rfl rfl
  | removeMessages handler what =>
    obtain rfl := Option.some.inj h
    refine Moves.act rfl ?_ rfl ?_
    · have hline := w.looper.mMessageEnvelopes_removeMessages handler what
      exact hline ▸ .cancel (isFor handler what)
    · rintro p heq
      cases heq
      exact ⟨handler, what, rfl, rfl⟩
  | addFd fd ident events callback data granted =>
    obtain rfl := Option.some.inj h
    exact Moves.of_mail rfl (frame_addFd fd ident events callback data granted).1
  | removeFd fd granted =>
    obtain rfl := Option.some.inj h
    exact Moves.of_mail rfl (frame_removeFd fd granted).1
  | close fd =>
    obtain ⟨-, rfl⟩ := step_close.mp h
    exact Moves.of_mail rfl rfl
  | tick now =>
    obtain ⟨-, rfl⟩ := step_tick.mp h
    exact Moves.same rfl rfl rfl

theorem steps_moves {es : List (Event η γ δ)} (h : Steps (step D) w es w') : Moves es w w' := by
  induction h with
  | refl => exact ⟨[], by simp, .refl, rfl, nofun⟩
  | @cons s s' s'' e es hse _ ih => exact (step_moves hse).trans ih

/-- Whatever the threads do, in any order: the messages that wait are in the order in which they
are to be handled, and what happens to them is what happens to a mailbox. So a message is handled
when it is due and not before, after those that are due earlier and those that are due at the same
time and were sent before it. -/
theorem messages_are_mailbox {allowNonCallbacks : Bool} {wakeFd clock : Int}
    {es : List (Event η γ δ)} (hrun : Steps (step D) (new allowNonCallbacks wakeFd clock) es w) :
    ∃ m, Path (Mailbox.Does MessageEnvelope.uptime) Mailbox.empty w.history m ∧
      Mailbox.IsLine MessageEnvelope.uptime w.looper.mMessageEnvelopes m := by
  obtain ⟨acts, hhist, hpath, -, -⟩ := steps_moves hrun
  obtain ⟨m, hmailbox, hline⟩ := Mailbox.line_is_mailbox hpath
  have hacts : w.history = acts := hhist
  rw [hacts]
  exact ⟨m, hmailbox, hline⟩

/-- A message is handled at most as often as it is sent; one that no call of `removeMessages` is
about is handled or waits. -/
theorem messages_accounted {allowNonCallbacks : Bool} {wakeFd clock : Int}
    {es : List (Event η γ δ)} (hrun : Steps (step D) (new allowNonCallbacks wakeFd clock) es w)
    (m : MessageEnvelope η) :
    w.looper.mMessageEnvelopes.count m + (w.history.filterMap Mailbox.Action.delivered?).count m ≤
        (es.filterMap Event.sent?).count m ∧
      ((∀ handler what, .removeMessages handler what ∈ es → isFor handler what m = false) →
        w.looper.mMessageEnvelopes.count m +
          (w.history.filterMap Mailbox.Action.delivered?).count m =
            (es.filterMap Event.sent?).count m) := by
  obtain ⟨acts, hhist, hpath, hsent, hcancel⟩ := steps_moves hrun
  have hacts : w.history = acts := hhist
  obtain ⟨hle, heq⟩ := Mailbox.counts hpath m
  have hnone : (new allowNonCallbacks wakeFd clock : World η γ δ).looper.mMessageEnvelopes.count m
      = 0 := List.count_nil
  rw [hsent, hnone, Nat.zero_add] at hle heq
  rw [hacts]
  refine ⟨hle, fun hkept => heq ?_⟩
  intro p hp
  obtain ⟨handler, what, hmem, rfl⟩ := hcancel p hp
  exact hkept handler what hmem

/-- A message is sent while the loop waits with another one in front, which is handled; the first
one is not due yet when the loop waits again. -/
def twoMessages : List (Event Bool Unit Unit) :=
  [.sendMessageAtTime ⟨5, true, 1⟩, .wakeAfterSend, .pollOnce (-1), .waited (.ready [(3, 1)]),
    .locked, .respond, .pollOnce (-1), .sendMessageAtTime ⟨2, false, 1⟩, .wakeAfterSend, .tick 2,
    .waited (.ready [(3, 1)]), .locked, .handled, .respond, .pollOnce (-1)]

theorem twoMessages_isSome :
    (twoMessages.foldlM (step millisDelay) (new true 3 0)).isSome = true := by decide +kernel

def afterTwo : World Bool Unit Unit :=
  (twoMessages.foldlM (step millisDelay) (new true 3 0)).get twoMessages_isSome

theorem twoMessages_run : Steps (step millisDelay) (new true 3 0) twoMessages afterTwo :=
  steps_iff_foldlM.mpr (Option.some_get twoMessages_isSome).symm

theorem messages_are_mailbox_twoMessages :
    ∃ m, Path (Mailbox.Does MessageEnvelope.uptime) Mailbox.empty afterTwo.history m ∧
      Mailbox.IsLine MessageEnvelope.uptime afterTwo.looper.mMessageEnvelopes m :=
  messages_are_mailbox twoMessages_run

theorem messages_accounted_twoMessages :
    afterTwo.looper.mMessageEnvelopes.count ⟨5, true, 1⟩ +
      (afterTwo.history.filterMap Mailbox.Action.delivered?).count ⟨5, true, 1⟩ = 1 := by
  refine ((messages_accounted twoMessages_run ⟨5, true, 1⟩).2 ?_).trans rfl
  simp [twoMessages]

end World
end Polling
end Huashan
