import Huashan.Polling.Messages

/-!
# Huashan.Polling.Wakes

The loop does not sleep past a message. A thread that sends one wakes the loop only when the message
is the first and no handler runs, and the loop asks for the next message only after the handlers.

`Wakes` is the invariant, and `wakes_in_time` the result.
-/

namespace Huashan
namespace Polling

/-- The timeout is not longer than until the message at `next`, when there is one near enough. -/
def Bounded (D : Delay) (timeoutMillis now next : Int) : Prop :=
  timeoutMillis = 0 ∨ next = llongMax ∨ D.toMillisecondTimeoutDelay now next < 0 ∨
    0 ≤ timeoutMillis ∧ timeoutMillis ≤ D.toMillisecondTimeoutDelay now next

theorem adjust_bounded (D : Delay) (timeoutMillis now next : Int) :
    Bounded D (adjust D timeoutMillis now next) now next := by
  unfold adjust Bounded
  dsimp only
  split
  · split
    · rename_i hmessage
      exact .inr (.inr (.inr ⟨hmessage.1, le_rfl⟩))
    · omega
  · omega

variable {η γ δ : Type}

namespace World

variable {D : Delay} {w w' : World η γ δ}

/-- The loop has been woken, or is about to be, or has asked for no message that is due later than
one that waits. -/
def Seen (w : World η γ δ) : Prop :=
  w.kernel.pipe ≠ 0 ∨ 0 < w.wakers ∨
    ∀ e ∈ w.looper.mMessageEnvelopes, w.looper.mNextMessageUptime ≤ e.uptime

structure Wakes (D : Delay) (w : World η γ δ) : Prop where
  sorted : w.looper.mMessageEnvelopes.Pairwise (·.uptime ≤ ·.uptime)
  sending : w.looper.mSendingMessage = true ↔ ∃ e, w.phase = .handling e
  seen : w.looper.mSendingMessage = false → w.Seen
  bounded : ∀ t now, w.phase = .waiting t now → Bounded D t now w.looper.mNextMessageUptime

theorem wakes_new (allowNonCallbacks : Bool) (wakeFd clock : Int) :
    Wakes D (new allowNonCallbacks wakeFd clock : World η γ δ) := by
  refine ⟨List.Pairwise.nil, ?_, ?_, nofun⟩
  · simp [new]
  · intro _
    exact .inr (.inr nofun)

/-- A step that leaves the messages and the pipe alone. -/
theorem Wakes.of_mail (h : w.Wakes D) (hmail : w'.mail = w.mail)
    (hpipe : w'.kernel.pipe = w.kernel.pipe)
    (hphase : w'.phase = w.phase ∨ w.looper.mSendingMessage = false ∧
      (∀ e, w'.phase ≠ .handling e) ∧
      ∀ t now, w'.phase = .waiting t now → Bounded D t now w.looper.mNextMessageUptime) :
    w'.Wakes D := by
  have hmessages : w'.looper.mMessageEnvelopes = w.looper.mMessageEnvelopes :=
    congrArg Mail.messages hmail
  have hsending : w'.looper.mSendingMessage = w.looper.mSendingMessage :=
    congrArg Mail.sending hmail
  have hnext : w'.looper.mNextMessageUptime = w.looper.mNextMessageUptime :=
    congrArg Mail.next hmail
  have hwakers : w'.wakers = w.wakers := congrArg Mail.wakers hmail
  refine ⟨hmessages ▸ h.sorted, ?_, ?_, ?_⟩
  · rw [hsending]
    obtain hsame | ⟨hfree, hidle, -⟩ := hphase
    · rw [hsame]
      exact h.sending
    · simp [hfree, hidle]
  · intro hfree
    rw [Seen, hpipe, hwakers, hmessages, hnext]
    exact h.seen (hsending ▸ hfree)
  · rw [hnext]
    obtain hsame | ⟨-, -, hbounded⟩ := hphase
    · rw [hsame]
      exact h.bounded
    · exact hbounded

theorem Wakes.turn (h : w.Wakes D) (hfree : w.looper.mSendingMessage = false) (result : Int) :
    (w.turn D result).Wakes D := by
  refine h.of_mail (mail_turn result) (congrArg Kernel.pipe (kernel_turn result)) (.inr ?_)
  obtain hidle | hwaiting := phase_turn (D := D) (w := w) result
  · simp [hfree, hidle]
  · refine ⟨hfree, by simp [hwaiting], ?_⟩
    rintro t now ht
    rw [hwaiting, Phase.waiting.injEq] at ht
    obtain ⟨rfl, rfl⟩ := ht
    exact adjust_bounded D _ _ _

/-- After the handlers, the loop asks for the first message that is left. -/
theorem Turned.wakes {w₁ : World η γ δ} {result : Int} (h : Turned w₁ result w')
    (hsorted : w₁.looper.mMessageEnvelopes.Pairwise (·.uptime ≤ ·.uptime))
    (hfree : w₁.looper.mSendingMessage = false) : w'.Wakes D := by
  cases h with
  | empty hes =>
    refine ⟨hsorted, by simp [hfree], ?_, nofun⟩
    intro _
    refine .inr (.inr ?_)
    intro e he
    rw [show _ = [] from hes] at he
    cases he
  | deliver hes hdue =>
    rw [hes, List.pairwise_cons] at hsorted
    exact ⟨hsorted.2, by simp, nofun, nofun⟩
  | @wait e es hes =>
    refine ⟨hsorted, by simp [hfree], ?_, nofun⟩
    intro _
    refine .inr (.inr ?_)
    intro f hf
    rw [hes] at hsorted
    rw [show _ = e :: es from hes] at hf
    rcases List.mem_cons.mp hf with rfl | hf
    · exact le_rfl
    · exact (List.pairwise_cons.mp hsorted).1 f hf

/-- A message that is not first is not due before the first. -/
theorem seen_enqueue {e : MessageEnvelope η} {es : List (MessageEnvelope η)} {next : Int}
    (h : ∀ f ∈ es, next ≤ f.uptime) (hi : insertionIndex e.uptime es ≠ 0) :
    ∀ f ∈ Mailbox.enqueue MessageEnvelope.uptime e es, next ≤ f.uptime := by
  intro f hf
  rw [(Mailbox.perm_enqueue e es).mem_iff, List.mem_cons] at hf
  rcases hf with rfl | hf
  · cases es with
    | nil => exact (hi rfl).elim
    | cons g es =>
      by_cases hg : g.uptime ≤ f.uptime
      · exact (h g List.mem_cons_self).trans hg
      · rw [insertionIndex, if_neg hg] at hi
        exact (hi rfl).elim
  · exact h f hf

theorem Wakes.sendMessageAtTime (h : w.Wakes D) (e : MessageEnvelope η) :
    (w.sendMessageAtTime e).Wakes D := by
  have hsorted : (Mailbox.enqueue MessageEnvelope.uptime e
      w.looper.mMessageEnvelopes).Pairwise (·.uptime ≤ ·.uptime) :=
    (Mailbox.LineDoes.post e).sorted h.sorted
  unfold World.sendMessageAtTime
  dsimp only
  rw [Looper.fst_sendMessageAtTime]
  refine ⟨hsorted, h.sending, ?_, h.bounded⟩
  intro hfree
  have hwakes : (w.looper.sendMessageAtTime e).2 =
      decide (insertionIndex e.uptime w.looper.mMessageEnvelopes = 0) := by
    unfold Looper.sendMessageAtTime
    dsimp only
    rw [if_neg (by simpa using hfree)]
  by_cases hi : insertionIndex e.uptime w.looper.mMessageEnvelopes = 0
  · refine .inr (.inl ?_)
    simp [hwakes, hi]
  · have hseen := h.seen hfree
    simp only [Seen, hwakes, hi, decide_false, Bool.false_eq_true, if_false]
    obtain hpipe | hwakers | hnext := hseen
    · exact .inl hpipe
    · exact .inr (.inl hwakers)
    · exact .inr (.inr (seen_enqueue hnext hi))

variable [DecidableEq η]

theorem Wakes.step {e : Event η γ δ} (h : w.Wakes D) (hs : w.step D e = some w') :
    w'.Wakes D := by
  have hbusy : ∀ {p : Phase η}, w.phase = p → (∀ e, p ≠ .handling e) →
      w.looper.mSendingMessage = false := by
    intro p hp hnot
    cases hsend : w.looper.mSendingMessage with
    | false => rfl
    | true =>
      obtain ⟨e, he⟩ := h.sending.mp hsend
      exact (hnot e (hp.symm.trans he)).elim
  cases e with
  | pollOnce timeoutMillis =>
    obtain ⟨hidle, rfl⟩ := step_pollOnce.mp hs
    have h₁ : Wakes D { w with timeoutMillis := timeoutMillis } := h.of_mail rfl rfl (.inl rfl)
    exact h₁.turn (hbusy hidle nofun) 0
  | waited wait =>
    obtain ⟨t, now, hphase, -, rfl⟩ := step_waited.mp hs
    exact h.of_mail rfl rfl (.inr ⟨hbusy hphase nofun, nofun, nofun⟩)
  | locked =>
    obtain ⟨wait, hphase, rfl⟩ := step_locked.mp hs
    obtain ⟨w₁, result, hmail, heq⟩ := lock_eq (w := w) wait
    rw [heq]
    have hmessages : w₁.looper.mMessageEnvelopes = w.looper.mMessageEnvelopes :=
      congrArg Mail.messages hmail
    have hsending : w₁.looper.mSendingMessage = w.looper.mSendingMessage :=
      congrArg Mail.sending hmail
    exact (turned_nextMessage _ result).wakes (hmessages ▸ h.sorted)
      (hsending.trans (hbusy hphase nofun))
  | handled =>
    obtain ⟨-, rfl⟩ := step_handled.mp hs
    exact (turned_nextMessage _ _).wakes h.sorted rfl
  | respond =>
    obtain ⟨i, result, hphase, rfl⟩ := step_respond.mp hs
    obtain ⟨hmail, hkernel, ⟨hwaiting, hhandling⟩ | hturn⟩ :=
      frame_respond (D := D) (w := w) i result
    · exact h.of_mail hmail (congrArg Kernel.pipe hkernel)
        (.inr ⟨hbusy hphase nofun, hhandling, fun t now ht => (hwaiting t now ht).elim⟩)
    · rw [hturn]
      exact h.turn (hbusy hphase nofun) result
  | answered callbackResult granted =>
    obtain ⟨i, hphase, rfl⟩ := step_answered.mp hs
    obtain ⟨hmail, hpipe, hsame | hnext⟩ := frame_answered (w := w) i callbackResult granted
    · exact h.of_mail hmail hpipe (.inl hsame)
    · exact h.of_mail hmail hpipe
        (.inr ⟨hbusy hphase nofun, by simp [hnext], by simp [hnext]⟩)
  | sendMessageAtTime e =>
    obtain rfl := Option.some.inj hs
    exact h.sendMessageAtTime e
  | wakeAfterSend =>
    obtain ⟨-, rfl⟩ := step_wakeAfterSend.mp hs
    exact ⟨h.sorted, h.sending, fun _ => .inl (Kernel.wake_pipe _), h.bounded⟩
  | wake =>
    obtain rfl := Option.some.inj hs
    exact ⟨h.sorted, h.sending, fun _ => .inl (Kernel.wake_pipe _), h.bounded⟩
  | removeMessages handler what =>
    obtain rfl := Option.some.inj hs
    have hline := w.looper.mMessageEnvelopes_removeMessages handler what
    refine ⟨?_, h.sending, ?_, h.bounded⟩
    · dsimp only
      rw [hline]
      exact h.sorted.filter _
    · intro hfree
      obtain hpipe | hwakers | hnext := h.seen hfree
      · exact .inl hpipe
      · exact .inr (.inl hwakers)
      · refine .inr (.inr ?_)
        intro e he
        dsimp only at he
        rw [hline] at he
        exact hnext e (List.mem_of_mem_filter he)
  | addFd fd ident events callback data granted =>
    obtain rfl := Option.some.inj hs
    obtain ⟨hmail, hpipe, hsame⟩ :=
      frame_addFd (w := w) fd ident events callback data granted
    exact h.of_mail hmail hpipe (.inl hsame)
  | removeFd fd granted =>
    obtain rfl := Option.some.inj hs
    obtain ⟨hmail, hpipe, hsame⟩ := frame_removeFd (w := w) fd granted
    exact h.of_mail hmail hpipe (.inl hsame)
  | close fd =>
    obtain ⟨-, rfl⟩ := step_close.mp hs
    exact h.of_mail rfl rfl (.inl rfl)
  | tick now =>
    obtain ⟨-, rfl⟩ := step_tick.mp hs
    exact ⟨h.sorted, h.sending, h.seen, h.bounded⟩

/-- The message is so far away that the platform has no timeout for it. -/
def FarAway (now uptime : Int) : Prop :=
  (intMax - 1) * 1000000 < uptime - now ∨ llongMax ≤ uptime

/-- While the loop waits, and whatever the threads do: for each message, the loop has been woken or
is about to be, or its timeout ends before a millisecond has passed since the message is due, or
the message was too far away when the timeout was computed. -/
theorem wakes_in_time {allowNonCallbacks : Bool} {wakeFd clock : Int} {es : List (Event η γ δ)}
    (hrun : Steps (step D) (new allowNonCallbacks wakeFd clock) es w) {timeoutMillis now : Int}
    (hwait : w.phase = .waiting timeoutMillis now) {e : MessageEnvelope η}
    (he : e ∈ w.looper.mMessageEnvelopes) :
    w.kernel.pipe ≠ 0 ∨ 0 < w.wakers ∨ timeoutMillis = 0 ∨
      (0 < timeoutMillis ∧ now + timeoutMillis * 1000000 < e.uptime + 1000000) ∨
      FarAway now e.uptime := by
  have hkeep : ∀ (s : World η γ δ) e s', s.Wakes D → s.step D e = some s' → s'.Wakes D := by
    intro s e s' h hs
    exact h.step hs
  have h : w.Wakes D := hrun.invariant hkeep (wakes_new allowNonCallbacks wakeFd clock)
  have hfree : w.looper.mSendingMessage = false := by
    cases hsend : w.looper.mSendingMessage with
    | false => rfl
    | true =>
      obtain ⟨m, hm⟩ := h.sending.mp hsend
      rw [hwait] at hm
      cases hm
  obtain hpipe | hwakers | hnext := h.seen hfree
  · exact .inl hpipe
  · exact .inr (.inl hwakers)
  · have hle := hnext e he
    refine .inr (.inr ?_)
    obtain hzero | hmax | hfar | ⟨hpos, hshort⟩ := h.bounded timeoutMillis now hwait
    · exact .inl hzero
    · exact .inr (.inr (.inr (hmax ▸ hle)))
    all_goals
      by_cases hpast : w.looper.mNextMessageUptime ≤ now
      · have := D.past now _ hpast
        omega
      · have hlater := D.later now _ (not_le.mp hpast)
        unfold FarAway
        omega

theorem wakes_in_time_twoMessages : afterTwo.kernel.pipe ≠ 0 ∨ 0 < afterTwo.wakers ∨
    (1 : Int) = 0 ∨ ((0 : Int) < 1 ∧ (2 : Int) + 1 * 1000000 < 5 + 1000000) ∨ FarAway 2 5 := by
  have hmem : ⟨5, true, 1⟩ ∈ afterTwo.looper.mMessageEnvelopes := by decide +kernel
  exact wakes_in_time twoMessages_run rfl hmem

end World
end Polling
end Huashan
