import Mathlib

/-!
# Support — runs of an event-driven system

A system is a partial step function: `step s e` is the state after the event `e`, or `none` when
`e` cannot happen in `s`.  `Run step s es s'` says that the events `es`, in their order, lead from
`s` to `s'`.

* `Run.history_induction`: what holds at the start and is kept by every step holds at the end of
  every run; the property may speak of the events so far.
* `Run.invariant`: the same for a property of states alone.
* `everyState_of_everyStep`: a property that the steps keep when they meet a condition holds in
  every state of a run whose steps all meet it; `everyState_iff_everyStep` when the condition is
  exact.
-/

namespace Support

variable {σ ε : Type*} {step : σ → ε → Option σ}

/-- The events `es` lead from `s` to `s'`. -/
inductive Run (step : σ → ε → Option σ) (s : σ) : List ε → σ → Prop where
  | nil : Run step s [] s
  | snoc {es : List ε} {e : ε} {s' s'' : σ} (h : Run step s es s') (hs : step s' e = some s'') :
      Run step s (es ++ [e]) s''

/-- The state that some events lead to. -/
def runEvents (step : σ → ε → Option σ) : σ → List ε → Option σ
  | s, [] => some s
  | s, e :: es => (step s e).bind fun s' => runEvents step s' es

namespace Run

theorem one {s s' : σ} {e : ε} (h : step s e = some s') : Run step s [e] s' :=
  .snoc .nil h

theorem trans {s s' s'' : σ} {es es' : List ε} (h : Run step s es s') (h' : Run step s' es' s'') :
    Run step s (es ++ es') s'' := by
  induction h' with
  | nil => rwa [List.append_nil]
  | snoc _ hs ih =>
      rw [← List.append_assoc]
      exact .snoc ih hs

theorem of_runEvents {s s' : σ} {es : List ε} (h : runEvents step s es = some s') :
    Run step s es s' := by
  induction es generalizing s with
  | nil =>
      obtain rfl := Option.some.inj h
      exact .nil
  | cons e es ih =>
      obtain ⟨s₁, hs, hrest⟩ := Option.bind_eq_some_iff.mp h
      exact (one hs).trans (ih hrest)

/-- What holds at the start and is kept by every step, given the events so far, holds at the end
of every run. -/
theorem history_induction {s s' : σ} {es : List ε} {P : List ε → σ → Prop} (h : Run step s es s')
    (h₀ : P [] s)
    (hstep : ∀ es s₁ e s₂, P es s₁ → step s₁ e = some s₂ → P (es ++ [e]) s₂) : P es s' := by
  induction h with
  | nil => exact h₀
  | snoc _ hs ih => exact hstep _ _ _ _ ih hs

/-- An invariant of the steps is one of the runs. -/
theorem invariant {s s' : σ} {es : List ε} {P : σ → Prop} (h : Run step s es s') (h₀ : P s)
    (hstep : ∀ s₁ e s₂, P s₁ → step s₁ e = some s₂ → P s₂) : P s' :=
  h.history_induction (P := fun _ => P) h₀ fun _ s₁ e s₂ => hstep s₁ e s₂

/-- An invariant of the steps that some events make is one of the runs of such events. -/
theorem invariant_of_events {s s' : σ} {es : List ε} {P : σ → Prop} {C : ε → Prop}
    (h : Run step s es s') (hes : ∀ e ∈ es, C e) (h₀ : P s)
    (hstep : ∀ s₁ e s₂, P s₁ → C e → step s₁ e = some s₂ → P s₂) : P s' := by
  induction h with
  | nil => exact h₀
  | snoc _ hs ih =>
      obtain ⟨hes, he⟩ := List.forall_mem_append.mp hes
      exact hstep _ _ _ (ih hes) (he _ (List.mem_singleton_self _)) hs

/-- The last step of a run. -/
theorem last {s s' : σ} {es : List ε} {e : ε} (h : Run step s (es ++ [e]) s') :
    ∃ s₁, Run step s es s₁ ∧ step s₁ e = some s' := by
  generalize hes : es ++ [e] = es' at h
  cases h with
  | nil => simp at hes
  | snoc h hs =>
      obtain ⟨rfl, he⟩ := List.append_inj' hes rfl
      obtain rfl := List.singleton_inj.mp he
      exact ⟨_, h, hs⟩

/-- A run can be cut anywhere. -/
theorem split {s s' : σ} {es es' : List ε} (h : Run step s (es ++ es') s') :
    ∃ s₁, Run step s es s₁ ∧ Run step s₁ es' s' := by
  induction es' using List.reverseRecOn generalizing s' with
  | nil => exact ⟨s', List.append_nil es ▸ h, .nil⟩
  | append_singleton es' e ih =>
      rw [← List.append_assoc] at h
      obtain ⟨s₂, h₂, hs⟩ := h.last
      obtain ⟨s₁, h₁, hrest⟩ := ih h₂
      exact ⟨s₁, h₁, .snoc hrest hs⟩

/-- The events determine the state. -/
theorem unique {s s₁ s₂ : σ} {es : List ε} (h₁ : Run step s es s₁) (h₂ : Run step s es s₂) :
    s₁ = s₂ := by
  induction h₁ generalizing s₂ with
  | nil =>
      generalize hes : ([] : List ε) = es at h₂
      cases h₂ with
      | nil => rfl
      | snoc => simp at hes
  | snoc _ hs ih =>
      obtain ⟨s₃, h₃, hs'⟩ := last h₂
      obtain rfl := ih h₃
      exact Option.some.inj (hs.symm.trans hs')

end Run

/-! ### Every state, every step -/

/-- Every state that the events lead through has the property. -/
def EveryState (step : σ → ε → Option σ) (s : σ) (es : List ε) (P : σ → Prop) : Prop :=
  ∀ es₁ s₁, es₁ <+: es → Run step s es₁ s₁ → P s₁

/-- Every event meets the condition in the state in which it happens. -/
def EveryStep (step : σ → ε → Option σ) (s : σ) (es : List ε) (C : σ → ε → Prop) : Prop :=
  ∀ es₁ e s₁, es₁ ++ [e] <+: es → Run step s es₁ s₁ → C s₁ e

variable {s s' : σ} {es es' : List ε} {P I : σ → Prop} {C D : σ → ε → Prop}

theorem EveryState.mono (h : EveryState step s es P) (hP : ∀ s, P s → I s) :
    EveryState step s es I :=
  fun es₁ s₁ hes₁ hrun => hP s₁ (h es₁ s₁ hes₁ hrun)

theorem EveryState.last (h : EveryState step s es P) (hrun : Run step s es s') : P s' :=
  h es s' (List.prefix_refl es) hrun

theorem EveryStep.mono (h : EveryStep step s es C) (hC : ∀ s e, C s e → D s e) :
    EveryStep step s es D :=
  fun es₁ e s₁ hes₁ hrun => hC s₁ e (h es₁ e s₁ hes₁ hrun)

theorem EveryStep.and (h : EveryStep step s es C) (h' : EveryStep step s es D) :
    EveryStep step s es fun s e => C s e ∧ D s e :=
  fun es₁ e s₁ hes₁ hrun => ⟨h es₁ e s₁ hes₁ hrun, h' es₁ e s₁ hes₁ hrun⟩

/-- Whether every event meets a condition that can be decided. -/
def everyStep? (step : σ → ε → Option σ) (C : σ → ε → Prop) [∀ s e, Decidable (C s e)] :
    σ → List ε → Bool
  | _, [] => true
  | s, e :: es => decide (C s e) && (step s e).all fun s' => everyStep? step C s' es

theorem everyStep_of_everyStep? [∀ s e, Decidable (C s e)] (h : everyStep? step C s es = true) :
    EveryStep step s es C := by
  induction es generalizing s with
  | nil =>
      intro es₁ e s₁ hes₁ _
      simp at hes₁
  | cons e es ih =>
      obtain ⟨hC, hrest⟩ := Bool.and_eq_true_iff.mp h
      intro es₁ e₁ s₁ hes₁ hrun
      cases es₁ with
      | nil =>
          obtain rfl : e₁ = e := (List.cons_prefix_cons.mp hes₁).1
          obtain rfl := hrun.unique .nil
          exact of_decide_eq_true hC
      | cons e₂ es₁ =>
          obtain ⟨rfl, htail⟩ := List.cons_prefix_cons.mp hes₁
          have hcut : Run step s ([e₂] ++ es₁) s₁ := hrun
          obtain ⟨s₂, hfirst, hrest'⟩ := hcut.split
          have hsnoc : Run step s ([] ++ [e₂]) s₂ := hfirst
          obtain ⟨s₀, hnil, hs⟩ := hsnoc.last
          obtain rfl := hnil.unique .nil
          rw [hs] at hrest
          exact ih hrest es₁ e₁ s₁ htail hrest'

/-- **A property that the steps keep, when they meet a condition.** -/
theorem everyState_of_everyStep (h₀ : P s)
    (hstep : ∀ s₁ e s₂, P s₁ → C s₁ e → step s₁ e = some s₂ → P s₂)
    (hC : EveryStep step s es C) : EveryState step s es P := by
  intro es₁ s₁ hes₁ hrun
  induction hrun with
  | nil => exact h₀
  | snoc hrun hs ih =>
      have hbefore := ih ((List.prefix_append _ _).trans hes₁)
      exact hstep _ _ _ hbefore (hC _ _ _ hes₁ hrun) hs

/-- **A property that a step keeps exactly when it meets a condition**, in states that satisfy an
invariant and when what happens satisfies an assumption. -/
theorem everyState_iff_everyStep (hrun : Run step s es s') (hI₀ : I s) (h₀ : P s)
    (hI : ∀ s₁ e s₂, I s₁ → step s₁ e = some s₂ → I s₂) (hD : EveryStep step s es D)
    (hstep : ∀ s₁ e s₂, I s₁ → P s₁ → D s₁ e → step s₁ e = some s₂ → (P s₂ ↔ C s₁ e)) :
    EveryState step s es P ↔ EveryStep step s es C := by
  constructor
  · intro h es₁ e s₁ hes₁ hrun₁
    have hD₁ := hD es₁ e s₁ hes₁ hrun₁
    obtain ⟨es₂, rfl⟩ := hes₁
    obtain ⟨s₂, hrun₂, -⟩ := hrun.split
    obtain ⟨s₁', hrun₁', hs⟩ := hrun₂.last
    obtain rfl := hrun₁.unique hrun₁'
    have hpre : es₁ <+: es₁ ++ [e] ++ es₂ := by
      rw [List.append_assoc]
      exact List.prefix_append _ _
    have hP₁ := h es₁ s₁ hpre hrun₁
    have hP₂ := h _ s₂ (List.prefix_append _ _) hrun₂
    exact (hstep _ _ _ (hrun₁.invariant hI₀ hI) hP₁ hD₁ hs).mp hP₂
  · intro h
    have hboth : EveryState step s es fun s => I s ∧ P s := by
      refine everyState_of_everyStep ⟨hI₀, h₀⟩ ?_ (h.and hD)
      rintro s₁ e s₂ ⟨hI₁, hP₁⟩ ⟨hC, hD₁⟩ hs
      exact ⟨hI _ _ _ hI₁ hs, (hstep _ _ _ hI₁ hP₁ hD₁ hs).mpr hC⟩
    exact hboth.mono fun _ hs => hs.2

end Support
