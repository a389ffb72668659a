import Snip36.Support.Runs

/-!
# Support — tasks that are awaited together

Some tasks run in parallel and end in any order, each with a value or an error.  Who awaits them
together gets the values, in the order of the tasks, once all of them ended with one, or the
error of a task that failed, as soon as it is noticed and while other tasks may still run.

* `Run.joined`: values are returned only when every task ended with its own, and an error only
  when some task ended with it.
* `joining_progress`: when every task has ended, the wait can return.
-/

namespace Support

/-- Tasks that are awaited together: how each of them ended, and what the wait returned. -/
structure Joining (ε α : Type) where
  ended : List (Option (Except ε α))
  result : Option (Except ε (List α))

/-- What happens to tasks that are awaited together. -/
inductive JoinEvent (τ : Type) where
  /-- The task `i` ends in the way `t`. -/
  | ends (i : ℕ) (t : τ)
  /-- The error of the task `i` is returned. -/
  | returnsError (i : ℕ)
  /-- The values are returned. -/
  | returnsValues

variable {ε α τ : Type}

/-- `n` tasks, none of which has ended. -/
def Joining.start (n : ℕ) : Joining ε α := ⟨List.replicate n none, none⟩

/-- The value of a task that ended with one. -/
def endValue : Option (Except ε α) → Option α
  | some (.ok a) => some a
  | _ => none

/-- `try_join_all`, where the task `i` that ends in the way `t` ends with `outcome i t`. -/
def joinStep (outcome : ℕ → τ → Except ε α) (s : Joining ε α) :
    JoinEvent τ → Option (Joining ε α)
  | .ends i t =>
      match s.ended[i]? with
      | some none => some { s with ended := s.ended.set i (some (outcome i t)) }
      | _ => none
  | .returnsError i =>
      match s.result, s.ended[i]? with
      | none, some (some (.error e)) => some { s with result := some (.error e) }
      | _, _ => none
  | .returnsValues =>
      match s.result, s.ended.mapM endValue with
      | none, some values => some { s with result := some (.ok values) }
      | _, _ => none

theorem mapM_endValue_eq_some :
    ∀ {ended : List (Option (Except ε α))} {values : List α},
      ended.mapM endValue = some values ↔ ended = values.map fun v => some (.ok v)
  | [], values => by
      rw [List.mapM_nil]
      cases values <;> simp [pure]
  | none :: ended, values => by
      rw [List.mapM_cons]
      cases values <;> simp [endValue]
  | some (.error e) :: ended, values => by
      rw [List.mapM_cons]
      cases values <;> simp [endValue]
  | some (.ok a) :: ended, values => by
      rw [List.mapM_cons]
      change ((ended.mapM endValue).bind fun vs => some (a :: vs)) = some values ↔ _
      rw [Option.bind_eq_some_iff]
      constructor
      · rintro ⟨vs, hvs, h⟩
        obtain rfl := Option.some.inj h
        rw [List.map_cons, mapM_endValue_eq_some.mp hvs]
      · intro h
        cases values with
        | nil => cases h
        | cons v vs =>
            rw [List.map_cons] at h
            obtain ⟨hv, hvs⟩ := List.cons.inj h
            obtain rfl : a = v := by simpa using hv
            exact ⟨vs, mapM_endValue_eq_some.mpr hvs, rfl⟩

/-- What a step can do. -/
theorem joinStep_cases {outcome : ℕ → τ → Except ε α} {s s' : Joining ε α} {event : JoinEvent τ}
    (h : joinStep outcome s event = some s') :
    (∃ i t, s.ended[i]? = some none ∧
        s' = { s with ended := s.ended.set i (some (outcome i t)) }) ∨
      (∃ (i : ℕ) (e : ε), s.result = none ∧ s.ended[i]? = some (some (Except.error e)) ∧
        s' = { s with result := some (.error e) }) ∨
      ∃ values, s.result = none ∧ (s.ended = values.map fun v => some (.ok v)) ∧
        s' = { s with result := some (.ok values) } := by
  cases event with
  | ends i t =>
      simp only [joinStep] at h
      split at h
      · next hi => exact .inl ⟨i, t, hi, (Option.some.inj h).symm⟩
      · cases h
  | returnsError i =>
      simp only [joinStep] at h
      split at h
      · next e hr hi => exact .inr (.inl ⟨i, e, hr, hi, (Option.some.inj h).symm⟩)
      · cases h
  | returnsValues =>
      simp only [joinStep] at h
      split at h
      · next values hr hv =>
          exact .inr (.inr ⟨values, hr, mapM_endValue_eq_some.mp hv, (Option.some.inj h).symm⟩)
      · cases h

/-- What holds of `n` awaited tasks at any time. -/
structure Joined (outcome : ℕ → τ → Except ε α) (n : ℕ) (s : Joining ε α) : Prop where
  length : s.ended.length = n
  ends : ∀ (i : ℕ) r, s.ended[i]? = some (some r) → ∃ t, r = outcome i t
  values : ∀ values, s.result = some (.ok values) → s.ended = values.map fun v => some (.ok v)
  error : ∀ e, s.result = some (.error e) → ∃ i : ℕ, s.ended[i]? = some (some (Except.error e))

theorem joined_start (outcome : ℕ → τ → Except ε α) (n : ℕ) :
    Joined outcome n (Joining.start n) where
  length := List.length_replicate
  ends i r h := by
    rw [Joining.start, List.getElem?_replicate] at h
    split at h <;> cases h
  values _ h := by cases h
  error _ h := by cases h

theorem Joined.step {outcome : ℕ → τ → Except ε α} {n : ℕ} {s s' : Joining ε α}
    {event : JoinEvent τ} (h : Joined outcome n s) (hs : joinStep outcome s event = some s') :
    Joined outcome n s' := by
  obtain ⟨i, t, hi, rfl⟩ | ⟨i, e, -, hi, rfl⟩ | ⟨values, -, hv, rfl⟩ := joinStep_cases hs
  · constructor
    · exact (List.length_set ..).trans h.length
    · intro j r hj
      by_cases hij : i = j
      · subst hij
        have hlt : i < s.ended.length := (List.getElem?_eq_some_iff.mp hi).1
        rw [List.getElem?_set_self hlt] at hj
        exact ⟨t, (Option.some.inj (Option.some.inj hj)).symm⟩
      · rw [List.getElem?_set_ne hij] at hj
        exact h.ends j r hj
    · intro values hr
      -- A task that has not ended is none of the values that were returned.
      have hmem : none ∈ s.ended := List.mem_of_getElem? hi
      rw [h.values values hr] at hmem
      simp at hmem
    · intro e hr
      obtain ⟨j, hj⟩ := h.error e hr
      have hij : i ≠ j := by
        rintro rfl
        rw [hi] at hj
        cases hj
      exact ⟨j, by rw [List.getElem?_set_ne hij, hj]⟩
  · refine ⟨h.length, h.ends, ?_, ?_⟩
    · intro values hr
      cases hr
    · rintro e' hr
      cases hr
      exact ⟨i, hi⟩
  · refine ⟨h.length, h.ends, ?_, ?_⟩
    · intro values' hr
      cases hr
      exact hv
    · intro e hr
      cases hr

/-- **Awaited tasks, over any order in which they end.** -/
theorem Run.joined {outcome : ℕ → τ → Except ε α} {n : ℕ} {s : Joining ε α}
    {events : List (JoinEvent τ)} (h : Run (joinStep outcome) (Joining.start n) events s) :
    Joined outcome n s :=
  h.invariant (joined_start outcome n) fun _ _ _ => Joined.step

/-- When every task has ended, either all of them have values or one has an error. -/
theorem mapM_endValue_or {ended : List (Option (Except ε α))} (h : ∀ o ∈ ended, o ≠ none) :
    (∃ values, ended.mapM endValue = some values) ∨ ∃ e, some (Except.error e) ∈ ended := by
  induction ended with
  | nil => exact .inl ⟨[], rfl⟩
  | cons o ended ih =>
      match o, h with
      | none, h => exact absurd rfl (h none List.mem_cons_self)
      | some (.error e), _ => exact .inr ⟨e, List.mem_cons_self⟩
      | some (.ok a), h =>
          rcases ih fun o ho => h o (List.mem_cons_of_mem _ ho) with ⟨values, hv⟩ | ⟨e, he⟩
          · refine .inl ⟨a :: values, mapM_endValue_eq_some.mpr ?_⟩
            rw [List.map_cons, mapM_endValue_eq_some.mp hv]
          · exact .inr ⟨e, List.mem_cons_of_mem _ he⟩

/-- **When every task has ended, the wait can return.** -/
theorem joining_progress (outcome : ℕ → τ → Except ε α) {s : Joining ε α}
    (hended : ∀ o ∈ s.ended, o ≠ none) (hr : s.result = none) :
    ∃ event s', joinStep outcome s event = some s' ∧ s'.result ≠ none := by
  rcases mapM_endValue_or hended with ⟨values, hv⟩ | ⟨e, he⟩
  · exact ⟨.returnsValues, { s with result := some (.ok values) },
      by simp only [joinStep, hr, hv], Option.some_ne_none _⟩
  · obtain ⟨i, hi⟩ := List.mem_iff_getElem?.mp he
    exact ⟨.returnsError i, { s with result := some (.error e) },
      by simp only [joinStep, hr, hi], Option.some_ne_none _⟩

end Support
