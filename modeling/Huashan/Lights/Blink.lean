import Huashan.Lights.Drawn

/-!
# Huashan.Lights.Blink

Sequencer 1 over runs of LED calls.

* `blinks_iff`: it runs exactly when a lit, flashing state is displayed, as long as no unlit
  flashing state is displayed while it runs.
* `programCurrent_iff`: the program it runs is the one of the caches, as long as, besides, a
  repeated flashing request is resumable: going back over the requests for the same target, the
  last flashing one has the same programmed delays.
-/

namespace Huashan
namespace Lights

/-! ## Programs -/

theorem programDelay_le (delay : Int32) : programDelay delay ≤ 63 := Nat.min_le_right _ _

theorem formatHex_append_inj {width n m : Nat} {s t : List Char} (hwidth : 0 < width)
    (hn : n < 16 ^ width) (hm : m < 16 ^ width)
    (h : (formatHex width n).toList ++ s = (formatHex width m).toList ++ t) : n = m ∧ s = t := by
  have hlen : (formatHex width n).toList.length = (formatHex width m).toList.length := by
    rw [length_formatHex hwidth hn, length_formatHex hwidth hm]
  obtain ⟨hhead, htail⟩ := List.append_inj h hlen
  exact ⟨formatHex_inj (String.toList_inj.mp hhead), htail⟩

/-- The numbers of a text with fixed parts in between, in the layout of
`ledsSeqLoadProgram`. -/
theorem program_text_inj {a b₁ b₂ b₃ c : String} {x x' y y' z z' : Nat} (hx : x < 16 ^ 2)
    (hx' : x' < 16 ^ 2) (hy : y < 16 ^ 2) (hy' : y' < 16 ^ 2)
    (h : a ++ formatHex 2 x ++ b₁ ++ b₂ ++ b₃ ++ formatHex 2 y ++ c ++ formatHex 3 z =
      a ++ formatHex 2 x' ++ b₁ ++ b₂ ++ b₃ ++ formatHex 2 y' ++ c ++ formatHex 3 z') :
    x = x' ∧ y = y' ∧ z = z' := by
  have hlist := congrArg String.toList h
  simp only [String.toList_append, List.append_assoc, List.append_cancel_left_eq] at hlist
  obtain ⟨hxs, hlist⟩ := formatHex_append_inj (by omega) hx hx' hlist
  simp only [List.append_cancel_left_eq] at hlist
  obtain ⟨hys, hlist⟩ := formatHex_append_inj (by omega) hy hy' hlist
  simp only [List.append_cancel_left_eq] at hlist
  exact ⟨hxs, hys, formatHex_inj (String.toList_inj.mp hlist)⟩

/-- A program determines its target and its programmed delays. -/
theorem lightsProgram_inj {t t' : Nat} {on off on' off' : Int32} :
    lightsProgram t on off = lightsProgram t' on' off' ↔
      t = t' ∧ programDelay on = programDelay on' ∧ programDelay off = programDelay off' := by
  have hbound : ∀ delay, programDelay delay < 16 ^ 2 := fun delay => by
    have := programDelay_le delay
    omega
  constructor
  · intro h
    unfold lightsProgram ledsSeqLoadProgram at h
    obtain ⟨hon, hoff, ht⟩ :=
      program_text_inj (hbound on) (hbound on') (hbound off) (hbound off') h
    exact ⟨ht, hon, hoff⟩
  · rintro ⟨rfl, hon, hoff⟩
    simp only [lightsProgram, hon, hoff]

/-! ## Sequencer 1 after a call -/

/-- What a call asks of the sequencer. -/
structure Request where
  target : Nat
  delayOn : Int32
  delayOff : Int32
  flashMode : Flash
  deriving DecidableEq, Repr

namespace Light

def request (s : Light) (c : LightType × LightState) : Request where
  target := (s.prepared c).requestTarget (s.prepared c).displayed
  delayOn := ((s.prepared c).effective (s.prepared c).displayed).delayOn
  delayOff := ((s.prepared c).effective (s.prepared c).displayed).delayOff
  flashMode := ((s.prepared c).effective (s.prepared c).displayed).flashMode

/-- The caches hold the target and the delays of the request. -/
def Repeats (s : Light) (r : Request) : Prop :=
  s.mSequencerProgramTarget = r.target ∧ s.mLightsDelayOn = r.delayOn ∧
    s.mLightsDelayOff = r.delayOff

instance (s : Light) (r : Request) : Decidable (s.Repeats r) :=
  inferInstanceAs (Decidable (_ ∧ _ ∧ _))

theorem programUpdate_prepared (s : Light) (c : LightType × LightState) :
    (s.prepared c).programUpdate (s.prepared c).displayed =
      if (s.request c).target ≠ s.mSequencerProgramTarget ∨
          (¬ s.Repeats (s.request c) ∧ (s.request c).flashMode = .timed) then .programWrite
      else .programKeep := by
  obtain ⟨_, htarget, hon, hoff⟩ := caches_prepared s c
  have hdelays : ((s.request c).delayOn ≠ s.mLightsDelayOn ∨
      (s.request c).delayOff ≠ s.mLightsDelayOff) ↔
        ¬ (s.mLightsDelayOn = (s.request c).delayOn ∧
          s.mLightsDelayOff = (s.request c).delayOff) := by
    rw [not_and_or, ne_comm, ne_comm (a := (s.request c).delayOff)]
  have heq : (s.prepared c).programUpdate (s.prepared c).displayed =
      if (s.request c).target ≠ s.mSequencerProgramTarget then .programWrite
      else if (s.request c).delayOn ≠ s.mLightsDelayOn ∨
          (s.request c).delayOff ≠ s.mLightsDelayOff then
        if (s.request c).flashMode = .timed then .programWrite else .programKeep
      else .programKeep := by
    rw [← htarget, ← hon, ← hoff]
    rfl
  rw [heq]
  simp only [hdelays, Repeats]
  by_cases ht : (s.request c).target = s.mSequencerProgramTarget
  · by_cases hm : (s.request c).flashMode = .timed <;> simp [ht, hm]
  · simp [ht]

theorem seq1_call (s : Light) {c : LightType × LightState} (hc : c.1.isLed) :
    (s.call c).seq1 =
      programSeq1
        (if (s.prepared c).Charging then
          programSeq1 s.seq1 .programKeep 0 (ledsLocals (s.prepared c).displayed).flashMode 0 0
        else s.seq1)
        ((s.prepared c).programUpdate (s.prepared c).displayed) (s.request c).target
        (s.request c).flashMode (s.request c).delayOn (s.request c).delayOff := by
  have hseq : (s.prepared c).seq1 = s.seq1 := by
    obtain ⟨type, state⟩ := c
    cases type <;> rfl
  rw [call_led s hc, seq1_setSpeakerLightLockedWith, hseq]
  rfl

/-- An unlit state is displayed without the charging indication. -/
theorem not_charging_of_target {s : Light} {c : LightType × LightState}
    (ht : (s.request c).target = 0) : ¬ (s.prepared c).Charging := by
  intro hcharging
  have hunlit := ((s.prepared c).requestTarget_eq_zero _).mp ht
  rw [Charging, (unlit_of_displayed hunlit).2.2] at hcharging
  cases hcharging.1

/-- The charging indication first holds the sequencer or leaves it; it loads no program. -/
theorem seq1_charging (s : Light) (c : LightType × LightState) (m : Flash) :
    (if (s.prepared c).Charging then programSeq1 s.seq1 .programKeep 0 m 0 0 else s.seq1).2 =
        s.seq1.2 ∧
      ((if (s.prepared c).Charging then programSeq1 s.seq1 .programKeep 0 m 0 0
        else s.seq1).1 = .seqUnknown → s.seq1.1 = .seqUnknown) := by
  by_cases hcharging : (s.prepared c).Charging
  · by_cases hm : m = .timed <;> simp [hcharging, programSeq1, hm]
  · simp [hcharging]

theorem programSeq1_lit {target : Nat} (ht : target ≠ 0) (q : LedsSequencers × String)
    (upd : LedsPUpdate) (on off : Int32) :
    (programSeq1 q upd target .timed on off).1 = .seqEnabled := by
  rw [programSeq1, if_pos rfl, if_neg ht]
  split
  · rfl
  · rfl

theorem seq1_call_unlit {s : Light} {c : LightType × LightState} (hc : c.1.isLed)
    (hm : (s.request c).flashMode = .timed) (ht : (s.request c).target = 0) :
    (s.call c).seq1 = s.seq1 := by
  rw [seq1_call s hc, if_neg (not_charging_of_target ht), programSeq1, if_pos hm, if_pos ht]

theorem seq1_call_new {s : Light} {c : LightType × LightState} (hc : c.1.isLed)
    (hm : (s.request c).flashMode = .timed) (ht : (s.request c).target ≠ 0)
    (hnew : ¬ s.Repeats (s.request c)) :
    (s.call c).seq1 = (.seqEnabled, lightsProgram (s.request c).target (s.request c).delayOn
      (s.request c).delayOff) := by
  have hwrite : (s.request c).target ≠ s.mSequencerProgramTarget ∨
      (¬ s.Repeats (s.request c) ∧ (s.request c).flashMode = .timed) := .inr ⟨hnew, hm⟩
  rw [seq1_call s hc, programUpdate_prepared, if_pos hwrite, programSeq1, if_pos hm, if_neg ht,
    if_pos (.inl rfl)]

theorem seq1_call_repeated {s : Light} {c : LightType × LightState} (hc : c.1.isLed)
    (hm : (s.request c).flashMode = .timed) (ht : (s.request c).target ≠ 0)
    (hrep : s.Repeats (s.request c)) (hseq : s.mSequencer1State ≠ .seqUnknown) :
    (s.call c).seq1 = (.seqEnabled, s.sysfs.sequencerLoad) := by
  obtain ⟨hload, hunknown⟩ :=
    seq1_charging s c (ledsLocals (s.prepared c).displayed).flashMode
  have hkeep : ¬ ((s.request c).target ≠ s.mSequencerProgramTarget ∨
      (¬ s.Repeats (s.request c) ∧ (s.request c).flashMode = .timed)) := by
    simp [hrep, hrep.1]
  rw [seq1_call s hc, programUpdate_prepared, if_neg hkeep, programSeq1, if_pos hm, if_neg ht,
    if_neg (by simpa using fun h => hseq (hunknown h)), hload]
  rfl

theorem seq1_call_held {s : Light} {c : LightType × LightState} (hc : c.1.isLed)
    (hm : (s.request c).flashMode ≠ .timed) :
    (s.call c).seq1 = (.seqDisabled,
      if (s.request c).target ≠ 0 ∧ (s.request c).target ≠ s.mSequencerProgramTarget then
        lightsProgram 0 (s.request c).delayOn (s.request c).delayOff
      else s.sysfs.sequencerLoad) := by
  obtain ⟨hload, _⟩ := seq1_charging s c (ledsLocals (s.prepared c).displayed).flashMode
  rw [seq1_call s hc, programUpdate_prepared, programSeq1, if_neg hm, hload]
  by_cases ht : (s.request c).target = s.mSequencerProgramTarget
  · simp [hm, ht]
    rfl
  · by_cases hz : (s.request c).target = 0 <;> simp [ht, hz]
    rfl

theorem requestTarget_request (s : Light) (c : LightType × LightState) :
    (s.request c).target = 0 ↔ isLit (s.prepared c).displayed = false :=
  (s.prepared c).requestTarget_eq_zero _

/-- The sequencer runs after a call when the call asks for flashing, and something is lit or it
was running. -/
theorem enabled_call_iff {s : Light} {c : LightType × LightState} (hc : c.1.isLed) :
    (s.call c).mSequencer1State = .seqEnabled ↔ (s.request c).flashMode = .timed ∧
      ((s.request c).target ≠ 0 ∨ s.mSequencer1State = .seqEnabled) := by
  have hfst : (s.call c).mSequencer1State = (s.call c).seq1.1 := rfl
  rw [hfst]
  by_cases hm : (s.request c).flashMode = .timed
  · by_cases ht : (s.request c).target = 0
    · rw [seq1_call_unlit hc hm ht]
      simp [hm, ht, seq1]
    · have hrun : (s.call c).seq1.1 = .seqEnabled := by
        rw [seq1_call s hc, hm, programSeq1_lit ht]
      simp [hrun, hm, ht]
  · rw [seq1_call_held hc hm]
    simp [hm]

/-! ## When the sequencer blinks -/

/-- An LED call, as a step of a run. -/
def ledStep (s : Light) (c : LightType × LightState) : Option Light :=
  if c.1.isLed then some (s.call c) else none

theorem ledStep_cases {s s' : Light} {c : LightType × LightState} (h : ledStep s c = some s') :
    c.1.isLed ∧ s' = s.call c := by
  by_cases hc : c.1.isLed
  · rw [ledStep, if_pos hc] at h
    exact ⟨hc, (Option.some.inj h).symm⟩
  · rw [ledStep, if_neg hc] at h
    cases h

/-- Sequencer 1 runs exactly when the displayed state is lit and flashing. -/
def Blinks (s : Light) : Prop :=
  s.mSequencer1State = .seqEnabled ↔
    isLit s.displayed ∧ (s.effective s.displayed).flashMode = .timed

/-- The call does not display an unlit flashing state while the sequencer runs. -/
def StopsBlink (s : Light) (c : LightType × LightState) : Prop :=
  ¬ (isLit (s.prepared c).displayed = false ∧
    ((s.prepared c).effective (s.prepared c).displayed).flashMode = .timed ∧
    s.mSequencer1State = .seqEnabled)

theorem blinks_call {s : Light} {c : LightType × LightState} (hc : c.1.isLed) :
    (s.call c).Blinks ↔ s.StopsBlink c := by
  have hdisplayed : (s.call c).displayed = (s.prepared c).displayed :=
    call_frame (fun _ => rfl) (fun _ _ _ _ _ => rfl) s hc
  have heffective : (s.call c).effective = (s.prepared c).effective :=
    call_frame (fun _ => rfl) (fun _ _ _ _ _ => rfl) s hc
  have hmode : ((s.prepared c).effective (s.prepared c).displayed).flashMode =
      (s.request c).flashMode := rfl
  have hlit : (s.request c).target ≠ 0 ↔ isLit (s.prepared c).displayed := by
    rw [ne_eq, requestTarget_request, Bool.not_eq_false]
  rw [Blinks, StopsBlink, enabled_call_iff hc, hdisplayed, heffective, hmode, hlit]
  cases isLit (s.prepared c).displayed <;> by_cases hm : (s.request c).flashMode = .timed <;>
    simp [hm]

/-- In every run, sequencer 1 blinks exactly when it should after every call, if and only if no
call displays an unlit flashing state while it runs. -/
theorem blinks_iff (s : Light) (cs : List (LightType × LightState)) :
    Always Blinks ledStep s cs ↔ AllMeet StopsBlink ledStep s cs := by
  refine always_iff_allMeet (fun _ => True) (fun _ _ _ _ _ _ => trivial) ?_ trivial
  intro s c s' _ h
  obtain ⟨hc, rfl⟩ := ledStep_cases h
  exact blinks_call hc

/-- The notification goes while an unlit battery asks for flashing: nothing is lit, and the
sequencer runs on. -/
theorem blink_not_stopped : ¬ Always Blinks ledStep
    (new darkNodes (steady 0) (steady 0) (steady 0))
    [(.notifications, flashing 0xffff0000 500 500), (.battery, flashing 0 5 5),
      (.notifications, steady 0)] := by
  intro h
  obtain ⟨_, h⟩ := h _ rfl
  obtain ⟨_, h⟩ := h _ rfl
  obtain ⟨hblinks, _⟩ := h _ rfl
  have hlit := hblinks.mp (by decide)
  exact absurd hlit.1 (by decide)

/-! ## Which program the sequencer runs -/

/-- An LED call of a run that keeps the requests made, the last one first. -/
def requestStep (x : Light × List Request) (c : LightType × LightState) :
    Option (Light × List Request) :=
  if c.1.isLed then some (x.1.call c, x.1.request c :: x.2) else none

theorem requestStep_cases {x x' : Light × List Request} {c : LightType × LightState}
    (h : requestStep x c = some x') :
    c.1.isLed ∧ x' = (x.1.call c, x.1.request c :: x.2) := by
  by_cases hc : c.1.isLed
  · rw [requestStep, if_pos hc] at h
    exact ⟨hc, (Option.some.inj h).symm⟩
  · rw [requestStep, if_neg hc] at h
    cases h

/-- While sequencer 1 runs, the program last written is the one for the cached target and
delays. -/
def ProgramCurrent (s : Light) : Prop :=
  s.mSequencer1State = .seqEnabled → s.sysfs.sequencerLoad =
    lightsProgram s.mSequencerProgramTarget s.mLightsDelayOn s.mLightsDelayOff

/-- Going back over the requests for the target of `r`, the last flashing one has the programmed
delays of `r`. -/
def Resumable (r : Request) : List Request → Prop
  | [] => False
  | y :: ys => y.target = r.target ∧
      if y.flashMode = .timed then
        programDelay y.delayOn = programDelay r.delayOn ∧
          programDelay y.delayOff = programDelay r.delayOff
      else Resumable r ys

/-- A flashing request is for a lit state, or the sequencer is not running; and when it repeats
the cached target and delays it is resumable. -/
def ResumesProgram (x : Light × List Request) (c : LightType × LightState) : Prop :=
  (x.1.request c).flashMode = .timed →
    ((x.1.request c).target = 0 → x.1.mSequencer1State ≠ .seqEnabled) ∧
      ((x.1.request c).target ≠ 0 → x.1.Repeats (x.1.request c) →
        Resumable (x.1.request c) x.2)

/-- The invariant: the memory holds the program of a request for the cached target exactly when
that request is resumable. -/
structure Loaded (x : Light × List Request) : Prop where
  last : ∀ y ys, x.2 = y :: ys → x.1.mSequencerProgramTarget = y.target
  unknown : x.1.mSequencer1State = .seqUnknown → x.1.mSequencerProgramTarget = 0
  enabled : x.1.mSequencer1State = .seqEnabled → x.1.mSequencerProgramTarget ≠ 0
  current : x.1.ProgramCurrent
  load : ∀ r : Request, r.target ≠ 0 → x.1.mSequencerProgramTarget = r.target →
    (x.1.sysfs.sequencerLoad = lightsProgram r.target r.delayOn r.delayOff ↔ Resumable r x.2)

theorem loaded_new (sysfs : Sysfs) (attention battery notification : LightState) :
    Loaded (new sysfs attention battery notification, []) where
  last := fun y ys h => by cases h
  unknown := fun _ => rfl
  enabled := fun h => by cases h
  current := fun h => by cases h
  load := fun r hr ht => absurd ht.symm hr

theorem caches_call {s : Light} {c : LightType × LightState} (hc : c.1.isLed) :
    (s.call c).mSequencerProgramTarget = (s.request c).target ∧
      (s.call c).mLightsDelayOn = (s.request c).delayOn ∧
      (s.call c).mLightsDelayOff = (s.request c).delayOff := by
  have h := core_setSpeakerLightLockedWith id (s.prepared c) (s.prepared c).displayed
  rw [← call_led s hc] at h
  exact ⟨(congrArg mSequencerProgramTarget h :), (congrArg mLightsDelayOn h :),
    (congrArg mLightsDelayOff h :)⟩

/-- One call, in a run whose memory is accounted for: the program stays current exactly when the
call resumes it. -/
theorem programCurrent_call {x : Light × List Request} (hx : Loaded x)
    {c : LightType × LightState} (hc : c.1.isLed) :
    (x.1.call c).ProgramCurrent ↔ ResumesProgram x c := by
  obtain ⟨htarget, hon, hoff⟩ := caches_call (s := x.1) hc
  have hload : (x.1.call c).sysfs.sequencerLoad = (x.1.call c).seq1.2 := rfl
  rw [ProgramCurrent, enabled_call_iff hc, htarget, hon, hoff, hload, ResumesProgram]
  by_cases hm : (x.1.request c).flashMode = .timed
  · by_cases ht : (x.1.request c).target = 0
    · have hseq := seq1_call_unlit hc hm ht
      simp only [hm, ht, hseq, true_implies, ne_eq, not_true, false_or, true_and, false_implies,
        and_true]
      refine ⟨fun h hen => ?_, fun h hen => absurd hen h⟩
      have hprog := h hen
      have hcur := hx.current hen
      rw [show x.1.seq1.2 = x.1.sysfs.sequencerLoad from rfl, hcur, lightsProgram_inj] at hprog
      exact hx.enabled hen hprog.1
    · by_cases hrep : x.1.Repeats (x.1.request c)
      · have hknown : x.1.mSequencer1State ≠ .seqUnknown := fun h =>
          ht (hrep.1.symm.trans (hx.unknown h))
        rw [seq1_call_repeated hc hm ht hrep hknown]
        simp only [hm, ne_eq, ht, not_false_eq_true, true_or, and_self, true_implies,
          false_implies, true_and, hrep]
        exact hx.load _ ht hrep.1
      · rw [seq1_call_new hc hm ht hrep]
        simp [ht, hrep]
  · simp [hm]

theorem resumable_head {r y : Request} {ys : List Request} (hm : y.flashMode = .timed) :
    lightsProgram y.target y.delayOn y.delayOff = lightsProgram r.target r.delayOn r.delayOff ↔
      Resumable r (y :: ys) := by
  rw [lightsProgram_inj, Resumable, if_pos hm]

/-- The memory after a call that resumes its program. -/
theorem load_call {x : Light × List Request} (hx : Loaded x) {c : LightType × LightState}
    (hc : c.1.isLed) (hcond : ResumesProgram x c) (r : Request) (hr : r.target ≠ 0)
    (htarget : (x.1.request c).target = r.target) :
    (x.1.call c).seq1.2 = lightsProgram r.target r.delayOn r.delayOff ↔
      Resumable r (x.1.request c :: x.2) := by
  have ht : (x.1.request c).target ≠ 0 := htarget ▸ hr
  by_cases hm : (x.1.request c).flashMode = .timed
  · rw [← resumable_head hm]
    by_cases hrep : x.1.Repeats (x.1.request c)
    · have hknown : x.1.mSequencer1State ≠ .seqUnknown := fun h =>
        ht (hrep.1.symm.trans (hx.unknown h))
      have hres := (hx.load _ ht hrep.1).mpr ((hcond hm).2 ht hrep)
      rw [seq1_call_repeated hc hm ht hrep hknown]
      simp only [hres]
    · rw [seq1_call_new hc hm ht hrep]
  · rw [seq1_call_held hc hm]
    by_cases hsame : (x.1.request c).target = x.1.mSequencerProgramTarget
    · -- the program in memory is left, and with it the answer of the earlier requests
      have hload := hx.load r hr (hsame.symm.trans htarget)
      simp only [Resumable, htarget, hm, if_false, true_and, ← hload]
      rw [if_neg (by simp [← htarget, hsame])]
    · -- the program is cleared, and the request before was for another target
      have hcleared : lightsProgram 0 (x.1.request c).delayOn (x.1.request c).delayOff ≠
          lightsProgram r.target r.delayOn r.delayOff := fun h =>
        hr (lightsProgram_inj.mp h).1.symm
      have hnot : ¬ Resumable r x.2 := by
        cases hys : x.2 with
        | nil => exact id
        | cons y ys =>
          intro h
          exact hsame (htarget.trans (h.1.symm.trans (hx.last y ys hys).symm))
      rw [if_pos ⟨ht, hsame⟩]
      simp only [hcleared, Resumable, hm, if_false, hnot, and_false]

theorem Loaded.step {x : Light × List Request} (hx : Loaded x) {c : LightType × LightState}
    (hc : c.1.isLed) (hcond : ResumesProgram x c) :
    Loaded (x.1.call c, x.1.request c :: x.2) where
  last := fun y ys h => by
    obtain ⟨htarget, _⟩ := caches_call (s := x.1) hc
    cases h
    exact htarget
  unknown := fun h => by
    obtain ⟨htarget, _⟩ := caches_call (s := x.1) hc
    rw [htarget]
    by_contra ht
    by_cases hm : (x.1.request c).flashMode = .timed
    · have hen := (enabled_call_iff hc).mpr ⟨hm, .inl ht⟩
      rw [show (x.1.call c).mSequencer1State = .seqUnknown from h] at hen
      cases hen
    · have hdis : (x.1.call c).mSequencer1State = .seqDisabled :=
        congrArg Prod.fst (seq1_call_held hc hm)
      rw [show (x.1.call c).mSequencer1State = .seqUnknown from h] at hdis
      cases hdis
  enabled := fun h => by
    obtain ⟨htarget, _⟩ := caches_call (s := x.1) hc
    obtain ⟨hm, hlit⟩ := (enabled_call_iff hc).mp h
    rw [htarget]
    intro ht
    rcases hlit with hlit | hen
    · exact hlit ht
    · exact (hcond hm).1 ht hen
  current := (programCurrent_call hx hc).mpr hcond
  load := fun r hr htarget => by
    rw [(caches_call (s := x.1) hc).1] at htarget
    exact load_call hx hc hcond r hr htarget

/-- In every run of LED calls from a new object, the program of the running sequencer is current
after every call, if and only if every call resumes its program. -/
theorem programCurrent_iff (sysfs : Sysfs) (attention battery notification : LightState)
    (cs : List (LightType × LightState)) :
    Always (fun x => x.1.ProgramCurrent) requestStep
        (new sysfs attention battery notification, []) cs ↔
      AllMeet ResumesProgram requestStep (new sysfs attention battery notification, []) cs := by
  refine always_iff_allMeet Loaded ?_ ?_ (loaded_new sysfs attention battery notification)
  · intro x c x' hx hcond h
    obtain ⟨hc, rfl⟩ := requestStep_cases h
    exact hx.step hc hcond
  · intro x c x' hx h
    obtain ⟨hc, rfl⟩ := requestStep_cases h
    exact programCurrent_call hx hc

/-- A steady light and then the same one flashing with the same delays: the cleared program is
started. -/
theorem cleared_program_started : ¬ Always (fun x => x.1.ProgramCurrent) requestStep
    (new darkNodes (steady 0) (steady 0) (steady 0), [])
    [(.notifications, ⟨0xffff0000, .none, 500, 500⟩),
      (.notifications, flashing 0xffff0000 500 500)] := by
  intro h
  obtain ⟨_, h⟩ := h _ rfl
  obtain ⟨hcurrent, _⟩ := h _ rfl
  have hload := hcurrent (by decide)
  revert hload
  decide

end Light
end Lights
end Huashan
