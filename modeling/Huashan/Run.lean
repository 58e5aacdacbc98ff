import Mathlib

/-!
# Huashan.Run

Finite runs of a guarded step function. `step s e` is `some s'` when the event `e` can happen in
the state `s`, and `none` when it cannot.

* `Steps step s es s'`: the events `es` can happen in this order and lead from `s` to `s'`.
* `Always P step s es`: `P` holds after every event of `es`.
* `AllMeet cond step s es`: every event of `es` happens in a state in which `cond` allows it.
* `Across R step s es`: `R` relates the states before and after every event of `es`.
* `Path R t es t'`: a run of a relation, such as the one that says what the steps stand for;
  `Steps.simulated` finds it.

`always_of_invariant`, `across_of_invariant` and `AllMeet.invariant` are the induction principles;
`always_iff_allMeet` and `across_iff_allMeet` say when a condition on the steps is exactly what
keeps a property.
`lockstep step` is the step of two runs with the same events.
-/

namespace Huashan

variable {σ ε : Type*} {step : σ → ε → Option σ}

inductive Steps (step : σ → ε → Option σ) : σ → List ε → σ → Prop where
  | refl {s : σ} : Steps step s [] s
  | cons {s s' s'' : σ} {e : ε} {es : List ε} :
      step s e = some s' → Steps step s' es s'' → Steps step s (e :: es) s''

/-- The run that replays `es` from `s`. -/
theorem steps_iff_foldlM {s s' : σ} {es : List ε} :
    Steps step s es s' ↔ es.foldlM step s = some s' := by
  constructor
  · intro h
    induction h with
    | refl => rfl
    | cons hs _ ih => rw [List.foldlM_cons, hs]; exact ih
  · induction es generalizing s with
    | nil => intro h; cases h; exact .refl
    | cons e es ih =>
      intro h
      rw [List.foldlM_cons] at h
      cases hs : step s e with
      | none => rw [hs] at h; cases h
      | some s₁ => rw [hs] at h; exact .cons hs (ih h)

/-- What every step keeps holds at the end of every run. -/
theorem Steps.invariant {Inv : σ → Prop}
    (hkeep : ∀ s e s', Inv s → step s e = some s' → Inv s') {s s' : σ} {es : List ε}
    (h : Steps step s es s') (hs : Inv s) : Inv s' := by
  induction h with
  | refl => exact hs
  | cons hse _ ih => exact ih (hkeep _ _ _ hs hse)

/-- What holds after a step when it held before or the step brings it about holds at the end of a
run when it held at its start or one of the steps brings it about. -/
theorem Steps.iff_or_exists (Inv : σ → Prop) {P : σ → Prop} {L : σ → ε → Prop}
    (hkeep : ∀ s e s', Inv s → step s e = some s' → Inv s')
    (hstep : ∀ s e s', Inv s → step s e = some s' → (P s' ↔ P s ∨ L s e))
    {s s' : σ} {es : List ε} (h : Steps step s es s') (hs : Inv s) :
    P s' ↔ P s ∨ ∃ es₁ e es₂ s₁, es = es₁ ++ e :: es₂ ∧ Steps step s es₁ s₁ ∧ L s₁ e := by
  induction h with
  | refl => simp
  | @cons s t s' e es hse _ ih =>
    rw [ih (hkeep s e t hs hse), hstep s e t hs hse, or_assoc]
    refine or_congr_right ⟨?_, ?_⟩
    · rintro (hL | ⟨es₁, e₁, es₂, s₁, rfl, h₁, hL⟩)
      · exact ⟨[], e, es, s, rfl, .refl, hL⟩
      · exact ⟨e :: es₁, e₁, es₂, s₁, rfl, .cons hse h₁, hL⟩
    · rintro ⟨es₁, e₁, es₂, s₁, heq, h₁, hL⟩
      cases h₁ with
      | refl =>
        obtain ⟨rfl, rfl⟩ := List.cons.inj heq
        exact .inl hL
      | cons hse₁ h₁ =>
        obtain ⟨rfl, rfl⟩ := List.cons.inj heq
        rw [hse] at hse₁
        cases hse₁
        exact .inr ⟨_, e₁, es₂, s₁, rfl, h₁, hL⟩

/-- The events `es` lead from one state to another by steps that `R` allows. -/
inductive Path {τ : Type*} (R : τ → ε → τ → Prop) : τ → List ε → τ → Prop where
  | refl {t : τ} : Path R t [] t
  | cons {t t' t'' : τ} {e : ε} {es : List ε} :
      R t e t' → Path R t' es t'' → Path R t (e :: es) t''

/-- When each step from a state that stands for `t` is one of `R` from `t`, so is every run. -/
theorem Steps.simulated {τ : Type*} {R : τ → ε → τ → Prop} {Stands : σ → τ → Prop}
    (hstep : ∀ s t e s', Stands s t → step s e = some s' → ∃ t', R t e t' ∧ Stands s' t')
    {s s' : σ} {es : List ε} (h : Steps step s es s') {t : τ} (ht : Stands s t) :
    ∃ t', Path R t es t' ∧ Stands s' t' := by
  induction h generalizing t with
  | refl => exact ⟨t, .refl, ht⟩
  | cons hse _ ih =>
    obtain ⟨t₁, hR, ht₁⟩ := hstep _ _ _ _ ht hse
    obtain ⟨t', hpath, ht'⟩ := ih ht₁
    exact ⟨t', .cons hR hpath, ht'⟩

theorem Path.simulated {τ υ : Type*} {R : τ → ε → τ → Prop} {Q : υ → ε → υ → Prop}
    {Stands : τ → υ → Prop}
    (hstep : ∀ t u e t', Stands t u → R t e t' → ∃ u', Q u e u' ∧ Stands t' u')
    {t t' : τ} {es : List ε} (h : Path R t es t') {u : υ} (hu : Stands t u) :
    ∃ u', Path Q u es u' ∧ Stands t' u' := by
  induction h generalizing u with
  | refl => exact ⟨u, .refl, hu⟩
  | cons hR _ ih =>
    obtain ⟨u₁, hQ, hu₁⟩ := hstep _ _ _ _ hu hR
    obtain ⟨u', hpath, hu'⟩ := ih hu₁
    exact ⟨u', .cons hQ hpath, hu'⟩

theorem Path.append {τ : Type*} {R : τ → ε → τ → Prop} {t t' t'' : τ} {es fs : List ε}
    (h : Path R t es t') (hrest : Path R t' fs t'') : Path R t (es ++ fs) t'' := by
  induction h with
  | refl => exact hrest
  | cons hfirst _ ih => exact .cons hfirst (ih hrest)

/-! ## Properties of all states and of all steps of a run -/

/-- `P` holds after each of the events, as far as they can happen. -/
def Always (P : σ → Prop) (step : σ → ε → Option σ) : σ → List ε → Prop
  | _, [] => True
  | s, e :: es => ∀ s', step s e = some s' → P s' ∧ Always P step s' es

/-- Each of the events, as far as they can happen, meets `cond` in the state it happens in. -/
def AllMeet (cond : σ → ε → Prop) (step : σ → ε → Option σ) : σ → List ε → Prop
  | _, [] => True
  | s, e :: es => ∀ s', step s e = some s' → cond s e ∧ AllMeet cond step s' es

/-- What follows from an invariant that the events of a kind keep holds all along every run of
such events. -/
theorem always_of_invariant_on (Inv : σ → Prop) (kind : ε → Prop) {P : σ → Prop}
    (hkeep : ∀ s e s', kind e → Inv s → step s e = some s' → Inv s') (hP : ∀ s, Inv s → P s)
    {s : σ} (hs : Inv s) {es : List ε} (hes : ∀ e ∈ es, kind e) : Always P step s es := by
  induction es generalizing s with
  | nil => trivial
  | cons e es ih =>
    intro s' hse
    have hs' := hkeep s e s' (hes e List.mem_cons_self) hs hse
    exact ⟨hP s' hs', ih hs' fun e' he' => hes e' (List.mem_cons_of_mem e he')⟩

/-- What follows from an invariant holds all along every run. -/
theorem always_of_invariant (Inv : σ → Prop) {P : σ → Prop}
    (hkeep : ∀ s e s', Inv s → step s e = some s' → Inv s') (hP : ∀ s, Inv s → P s)
    {s : σ} (hs : Inv s) (es : List ε) : Always P step s es :=
  always_of_invariant_on Inv (fun _ => True) (fun s e s' _ => hkeep s e s') hP hs
    fun _ _ => trivial

theorem AllMeet.cons {cond : σ → ε → Prop} {s s' : σ} {e : ε} {es : List ε}
    (hse : step s e = some s') (hce : cond s e) (hrest : AllMeet cond step s' es) :
    AllMeet cond step s (e :: es) := by
  intro s₁ hs₁
  rw [hse] at hs₁
  cases hs₁
  exact ⟨hce, hrest⟩

/-- A property kept by the steps that meet `cond` holds at the end of every run whose steps all
meet it. -/
theorem AllMeet.invariant {Inv : σ → Prop} {cond : σ → ε → Prop}
    (hstep : ∀ s e s', Inv s → cond s e → step s e = some s' → Inv s')
    {s s' : σ} {es : List ε} (h : Steps step s es s') (hc : AllMeet cond step s es)
    (hs : Inv s) : Inv s' := by
  induction h with
  | refl => exact hs
  | cons hse _ ih =>
    obtain ⟨hce, hrest⟩ := hc _ hse
    exact ih hrest (hstep _ _ _ hs hce hse)

/-- `R` relates what is before and after each of the events, as far as they can happen. -/
def Across (R : σ → ε → σ → Prop) (step : σ → ε → Option σ) : σ → List ε → Prop
  | _, [] => True
  | s, e :: es => ∀ s', step s e = some s' → R s e s' ∧ Across R step s' es

/-- If, in the states of an invariant that the good steps keep, a step is good exactly when `R`
holds across it, then `R` holds across all steps of a run exactly when they all are good. -/
theorem across_iff_allMeet (Inv : σ → Prop) {R : σ → ε → σ → Prop} {cond : σ → ε → Prop}
    (hkeep : ∀ s e s', Inv s → cond s e → step s e = some s' → Inv s')
    (hexact : ∀ s e s', Inv s → step s e = some s' → (R s e s' ↔ cond s e))
    {s : σ} {es : List ε} (hs : Inv s) : Across R step s es ↔ AllMeet cond step s es := by
  induction es generalizing s with
  | nil => exact Iff.rfl
  | cons e es ih =>
    refine forall_congr' fun s' => forall_congr' fun hse => ?_
    rw [hexact s e s' hs hse]
    refine and_congr_right fun hce => ?_
    exact ih (hkeep s e s' hs hce hse)

theorem always_iff_across {P : σ → Prop} {s : σ} {es : List ε} :
    Always P step s es ↔ Across (fun _ _ s' => P s') step s es := by
  induction es generalizing s with
  | nil => exact Iff.rfl
  | cons e es ih => exact forall_congr' fun s' => forall_congr' fun _ => and_congr_right fun _ => ih

/-- If, in the states of an invariant that the good steps keep, a step is good exactly when `P`
holds after it, then `P` holds all along a run exactly when all its steps are good. -/
theorem always_iff_allMeet (Inv : σ → Prop) {P : σ → Prop} {cond : σ → ε → Prop}
    (hkeep : ∀ s e s', Inv s → cond s e → step s e = some s' → Inv s')
    (hexact : ∀ s e s', Inv s → step s e = some s' → (P s' ↔ cond s e))
    {s : σ} {es : List ε} (hs : Inv s) : Always P step s es ↔ AllMeet cond step s es :=
  always_iff_across.trans (across_iff_allMeet Inv hkeep hexact hs)

/-! ## Two runs -/

/-- Two runs that take the same events. -/
def lockstep (step : σ → ε → Option σ) (s : σ × σ) (e : ε) : Option (σ × σ) :=
  match step s.1 e, step s.2 e with
  | some s', some t' => some (s', t')
  | _, _ => none

theorem lockstep_eq_some {s s' : σ × σ} {e : ε} :
    lockstep step s e = some s' ↔ step s.1 e = some s'.1 ∧ step s.2 e = some s'.2 := by
  obtain ⟨s₁, s₂⟩ := s'
  unfold lockstep
  cases step s.1 e with
  | none => simp
  | some t₁ => cases step s.2 e <;> simp

end Huashan
