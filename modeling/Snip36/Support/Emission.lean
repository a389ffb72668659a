import Mathlib

/-!
# Support — tasks that emit events

A task emits events, in order, and ends with a value, by an early return, or by a panic
(`Emission`).  Some events open a phase, and some are terminal.

`Emission.Passes ps p` says that `p` goes through the phases `ps`: when it ends with a value, it
has opened them all and emitted nothing terminal, and when it returns early, it has opened the
first of them and emitted one terminal event, its last.  `Emission.Finishes ps p` says that a whole
task ends so.  `Passes.bind` and `Finishes.bind` take a task apart at its steps.

`Emission.Avoids kind p` says that `p` emits no event of a kind; `Avoids.of_mem_bind` follows an
event of that kind past the steps that avoid it.
-/

namespace Support

/-- How a task stops early. -/
inductive Stop where
  | returned
  | panicked (msg : String)

/-- The events of a task, and how it ends. -/
structure Emission (ε α : Type) where
  events : List ε
  result : Except Stop α

namespace Emission

variable {ε φ κ α β : Type}

instance : Monad (Emission ε) where
  pure a := ⟨[], .ok a⟩
  bind p f :=
    match p.result with
    | .ok a => ⟨p.events ++ (f a).events, (f a).result⟩
    | .error stop => ⟨p.events, .error stop⟩

/-- One event. -/
def emit (e : ε) : Emission ε Unit := ⟨[e], .ok ()⟩

/-- A panic. -/
def panic (msg : String) : Emission ε α := ⟨[], .error (.panicked msg)⟩

/-- An event, and an early return. -/
def fail (e : ε) : Emission ε α := ⟨[e], .error .returned⟩

/-- The value of a result, or an early return after an event about its error. -/
def orFail (r : Except κ α) (e : κ → ε) : Emission ε α :=
  match r with
  | .ok a => pure a
  | .error k => fail (e k)

/-- The value of a step that panics when it has none. -/
def orPanic (o : Option α) (msg : String) : Emission ε α :=
  match o with
  | some a => pure a
  | none => panic msg

theorem bind_of_ok {p : Emission ε α} {f : α → Emission ε β} {a : α} (h : p.result = .ok a) :
    p >>= f = ⟨p.events ++ (f a).events, (f a).result⟩ := by
  change (match p.result with
    | .ok a => _
    | .error stop => _) = _
  rw [h]

theorem bind_of_error {p : Emission ε α} {f : α → Emission ε β} {stop : Stop}
    (h : p.result = .error stop) : p >>= f = ⟨p.events, .error stop⟩ := by
  change (match p.result with
    | .ok a => _
    | .error stop => _) = _
  rw [h]

/-! ### Phases and terminal events -/

variable (phase : ε → Option φ) (terminal : ε → Prop)

/-- The events open the phases `ps`, and none is terminal. -/
structure Opens (ps : List φ) (es : List ε) : Prop where
  phases : es.filterMap phase = ps
  not_terminal : ∀ e ∈ es, ¬ terminal e

/-- The events open the first phases of `ps`, and one is terminal, the last. -/
structure Closes (ps : List φ) (es : List ε) : Prop where
  phases : es.filterMap phase <+: ps
  last : ∃ before e, es = before ++ [e] ∧ terminal e ∧ ∀ e' ∈ before, ¬ terminal e'

/-- The task goes through the phases `ps`. -/
def Passes (ps : List φ) (p : Emission ε α) : Prop :=
  match p.result with
  | .ok _ => Opens phase terminal ps p.events
  | .error .returned => Closes phase terminal ps p.events
  | .error (.panicked _) => False

/-- The task does not panic, and closes. -/
structure Finishes (ps : List φ) (p : Emission ε α) : Prop where
  not_panicked : ∀ msg, p.result ≠ .error (.panicked msg)
  closes : Closes phase terminal ps p.events

variable {phase terminal}

theorem Opens.append {ps qs : List φ} {es es' : List ε} (h : Opens phase terminal ps es)
    (h' : Opens phase terminal qs es') : Opens phase terminal (ps ++ qs) (es ++ es') where
  phases := by rw [List.filterMap_append, h.phases, h'.phases]
  not_terminal e he := (List.mem_append.mp he).elim (h.not_terminal e) (h'.not_terminal e)

theorem Opens.closes {ps qs : List φ} {es es' : List ε} (h : Opens phase terminal ps es)
    (h' : Closes phase terminal qs es') : Closes phase terminal (ps ++ qs) (es ++ es') where
  phases := by
    rw [List.filterMap_append, h.phases]
    exact (List.prefix_append_right_inj ps).mpr h'.phases
  last := by
    obtain ⟨before, e, rfl, he, hbefore⟩ := h'.last
    refine ⟨es ++ before, e, (List.append_assoc ..).symm, he, fun e' he' => ?_⟩
    exact (List.mem_append.mp he').elim (h.not_terminal e') (hbefore e')

theorem Closes.weaken {ps qs : List φ} {es : List ε} (h : Closes phase terminal ps es) :
    Closes phase terminal (ps ++ qs) es where
  phases := h.phases.trans (List.prefix_append ps qs)
  last := h.last

theorem closes_singleton {e : ε} (he : terminal e) (hphase : phase e = none) :
    Closes phase terminal [] [e] where
  phases := by simp [hphase]
  last := ⟨[], e, rfl, he, fun _ h => absurd h List.not_mem_nil⟩

/-! ### Rules -/

theorem Passes.pure (a : α) : Passes phase terminal [] (pure a : Emission ε α) :=
  ⟨rfl, fun _ h => absurd h List.not_mem_nil⟩

/-- An event that is neither. -/
theorem Passes.emit {e : ε} (he : ¬ terminal e) (hphase : phase e = none) :
    Passes phase terminal [] (emit e) where
  phases := by simp [Emission.emit, hphase]
  not_terminal _ h := List.mem_singleton.mp h ▸ he

/-- An event that opens a phase. -/
theorem Passes.opens {e : ε} {p : φ} (he : ¬ terminal e) (hphase : phase e = some p) :
    Passes phase terminal [p] (Emission.emit e) where
  phases := by simp [Emission.emit, hphase]
  not_terminal _ h := List.mem_singleton.mp h ▸ he

theorem Passes.fail {e : ε} (he : terminal e) (hphase : phase e = none) :
    Passes phase terminal [] (fail e : Emission ε α) :=
  closes_singleton he hphase

theorem Passes.orFail {r : Except κ α} {e : κ → ε} (he : ∀ k, terminal (e k))
    (hphase : ∀ k, phase (e k) = none) : Passes phase terminal [] (orFail r e) := by
  cases r with
  | ok a => exact Passes.pure a
  | error k => exact Passes.fail (he k) (hphase k)

theorem Passes.orPanic {o : Option α} {msg : String} (h : o.isSome) :
    Passes phase terminal [] (orPanic o msg : Emission ε α) := by
  obtain ⟨a, rfl⟩ := Option.isSome_iff_exists.mp h
  exact Passes.pure a

/-- **One step after another.** -/
theorem Passes.bind {ps qs : List φ} {p : Emission ε α} {f : α → Emission ε β}
    (h : Passes phase terminal ps p) (hf : ∀ a, Passes phase terminal qs (f a)) :
    Passes phase terminal (ps ++ qs) (p >>= f) := by
  rw [Passes] at h
  cases hr : p.result with
  | ok a =>
      rw [bind_of_ok hr]
      rw [hr] at h
      have hrest := hf a
      rw [Passes] at hrest ⊢
      dsimp only
      cases hra : (f a).result with
      | ok b =>
          rw [hra] at hrest
          exact Opens.append h hrest
      | error stop =>
          rw [hra] at hrest
          cases stop with
          | returned => exact Opens.closes h hrest
          | panicked msg => exact hrest
  | error stop =>
      rw [bind_of_error hr]
      rw [hr] at h
      cases stop with
      | returned => exact Closes.weaken h
      | panicked msg => exact h.elim

/-- **A step, and then a task that finishes.** -/
theorem Finishes.bind {ps qs : List φ} {p : Emission ε α} {f : α → Emission ε β}
    (h : Passes phase terminal ps p) (hf : ∀ a, Finishes phase terminal qs (f a)) :
    Finishes phase terminal (ps ++ qs) (p >>= f) := by
  rw [Passes] at h
  cases hr : p.result with
  | ok a =>
      rw [bind_of_ok hr]
      rw [hr] at h
      exact ⟨(hf a).not_panicked, Opens.closes h (hf a).closes⟩
  | error stop =>
      rw [bind_of_error hr]
      rw [hr] at h
      cases stop with
      | returned => exact ⟨fun msg hmsg => (nomatch hmsg), Closes.weaken h⟩
      | panicked msg => exact h.elim

theorem Finishes.next {ps : List φ} {p : Emission ε α} {f : α → Emission ε β}
    (h : Passes phase terminal [] p) (hf : ∀ a, Finishes phase terminal ps (f a)) :
    Finishes phase terminal ps (p >>= f) :=
  Finishes.bind h hf

theorem Finishes.nextPhase {q : φ} {ps : List φ} {p : Emission ε α} {f : α → Emission ε β}
    (h : Passes phase terminal [q] p) (hf : ∀ a, Finishes phase terminal ps (f a)) :
    Finishes phase terminal (q :: ps) (p >>= f) :=
  Finishes.bind h hf

/-- The terminal event of a task that runs to its end. -/
theorem Finishes.emit {e : ε} (he : terminal e) (hphase : phase e = none) :
    Finishes phase terminal [] (Emission.emit e) :=
  ⟨fun _ hmsg => (nomatch hmsg), closes_singleton he hphase⟩

/-- A task that panics does not finish. -/
theorem not_finishes_of_panicked {ps : List φ} {p : Emission ε α} (msg : String)
    (h : p.result = .error (.panicked msg)) : ¬ Finishes phase terminal ps p :=
  fun hp => hp.not_panicked msg h

/-! ### Events of a kind -/

/-- The task emits no event of a kind. -/
def Avoids (kind : ε → Prop) (p : Emission ε α) : Prop := ∀ e ∈ p.events, ¬ kind e

section Avoids

variable {kind : ε → Prop}

theorem Avoids.pure (a : α) : Avoids kind (pure a : Emission ε α) :=
  fun _ h => absurd h List.not_mem_nil

theorem Avoids.emit {e : ε} (he : ¬ kind e) : Avoids kind (Emission.emit e) :=
  fun _ h => List.mem_singleton.mp h ▸ he

theorem Avoids.fail {e : ε} (he : ¬ kind e) : Avoids kind (Emission.fail e : Emission ε α) :=
  fun _ h => List.mem_singleton.mp h ▸ he

theorem Avoids.orFail {r : Except κ α} {e : κ → ε} (he : ∀ k, ¬ kind (e k)) :
    Avoids kind (Emission.orFail r e) := by
  cases r with
  | ok a => exact Avoids.pure a
  | error k => exact Avoids.fail (he k)

theorem Avoids.orPanic (o : Option α) (msg : String) :
    Avoids kind (Emission.orPanic o msg : Emission ε α) := by
  cases o with
  | none => exact fun _ h => absurd h List.not_mem_nil
  | some a => exact Avoids.pure a

theorem Avoids.bind {p : Emission ε α} {f : α → Emission ε β} (h : Avoids kind p)
    (hf : ∀ a, Avoids kind (f a)) : Avoids kind (p >>= f) := by
  cases hr : p.result with
  | ok a =>
      rw [bind_of_ok hr]
      exact fun e he => (List.mem_append.mp he).elim (h e) (hf a e)
  | error stop =>
      rw [bind_of_error hr]
      exact h

/-- **An event of a kind that the first step avoids is one of the rest.** -/
theorem Avoids.of_mem_bind {p : Emission ε α} {f : α → Emission ε β} {e : ε} (h : Avoids kind p)
    (hkind : kind e) (he : e ∈ (p >>= f).events) : ∃ a, p.result = .ok a ∧ e ∈ (f a).events := by
  cases hr : p.result with
  | ok a =>
      rw [bind_of_ok hr] at he
      exact ⟨a, rfl, (List.mem_append.mp he).resolve_left fun hmem => h e hmem hkind⟩
  | error stop =>
      rw [bind_of_error hr] at he
      exact absurd hkind (h e he)

/-- The result of a step that was gone past. -/
theorem eq_ok_of_result_orFail {r : Except κ α} {e : κ → ε} {a : α}
    (h : (Emission.orFail r e).result = .ok a) : r = .ok a := by
  cases r with
  | ok b =>
      obtain rfl := Except.ok.inj h
      rfl
  | error k => cases h

end Avoids

end Emission

end Support
