import Mathlib

/-!
# Support — computations that may stop short

A computation ends with a value, with an error it returns, or with a panic (`Fallible`).  An
error is part of its contract and a panic is not, so the two are kept apart.

`bind_eq_ok`, `mapM_eq_ok` and `forM_eq_ok` turn a computation that ends with a value into the
values of its parts.  `Agree R` relates two computations that take the same steps up to some
(`Agree.bind`, `Agree.bind_left`).
-/

namespace Support

/-- How a computation stops short of a value. -/
inductive Exit (ε : Type) where
  | err (e : ε)
  | panic (msg : String)
  deriving DecidableEq, Repr

/-- A computation that may return an error or panic. -/
abbrev Fallible (ε α : Type) := Except (Exit ε) α

/-- `assert!`. -/
def require {ε : Type} (p : Prop) [Decidable p] (msg : String) : Fallible ε Unit :=
  if p then .ok () else .error (.panic msg)

@[simp] theorem require_of {ε : Type} {p : Prop} [Decidable p] (h : p) (msg : String) :
    (require p msg : Fallible ε Unit) = .ok () :=
  if_pos h

/-- `expect`, on a value that may be missing. -/
def expect {ε α : Type} (o : Option α) (msg : String) : Fallible ε α :=
  match o with
  | some a => .ok a
  | none => .error (.panic msg)

/-- `return Err(e)`, when `p`. -/
def rejectIf {ε : Type} (p : Prop) [Decidable p] (e : ε) : Fallible ε Unit :=
  if p then .error (.err e) else .ok ()

theorem rejectIf_eq_ok {ε : Type} {p : Prop} [Decidable p] {e : ε} :
    rejectIf p e = .ok () ↔ ¬ p := by
  by_cases h : p <;> simp [rejectIf, h]

/-- `return Err(e)`, when `p`, in a computation that does not panic. -/
def failIf {ε : Type} (p : Prop) [Decidable p] (e : ε) : Except ε Unit :=
  if p then .error e else .ok ()

theorem failIf_eq_error {ε : Type} {p : Prop} [Decidable p] {e e' : ε} :
    failIf p e = .error e' ↔ p ∧ e' = e := by
  by_cases h : p <;> simp [failIf, h, eq_comm]

theorem failIf_eq_ok {ε : Type} {p : Prop} [Decidable p] {e : ε} : failIf p e = .ok () ↔ ¬ p := by
  by_cases h : p <;> simp [failIf, h]

/-- `?`, on a result with its error converted. -/
def orErr {ε ε' α : Type} (f : ε' → ε) (r : Except ε' α) : Fallible ε α :=
  r.mapError fun e => .err (f e)

theorem orErr_eq_ok {ε ε' α : Type} {f : ε' → ε} {r : Except ε' α} {a : α} :
    orErr f r = .ok a ↔ r = .ok a := by
  cases r <;> simp [orErr, Except.mapError]

/-- `ok_or`. -/
def okOr {ε α : Type} (o : Option α) (e : ε) : Except ε α :=
  match o with
  | some a => .ok a
  | none => .error e

theorem okOr_eq_ok {ε α : Type} {o : Option α} {e : ε} {a : α} :
    okOr o e = .ok a ↔ o = some a := by
  cases o <;> simp [okOr]

theorem mapError_eq_ok {ε ε' α : Type} {f : ε → ε'} {x : Except ε α} {a : α} :
    x.mapError f = .ok a ↔ x = .ok a := by
  cases x <;> simp [Except.mapError]

theorem map_eq_ok {ε α β : Type} {f : α → β} {x : Except ε α} {b : β} :
    x.map f = .ok b ↔ ∃ a, x = .ok a ∧ f a = b := by
  cases x <;> simp [Except.map]

theorem map_eq_error {ε α β : Type} {f : α → β} {x : Except ε α} {e : ε} :
    x.map f = .error e ↔ x = .error e := by
  cases x <;> simp [Except.map]

theorem toOption_eq_some {ε α : Type} {x : Except ε α} {a : α} :
    x.toOption = some a ↔ x = .ok a := by
  cases x <;> simp [Except.toOption]

theorem exists_eq_ok {ε α : Type} {x : Except ε α} (h : x.isOk = true) : ∃ a, x = .ok a := by
  cases x with
  | ok a => exact ⟨a, rfl⟩
  | error e => exact absurd h Bool.false_ne_true

theorem bind_eq_ok {ε α β : Type} {x : Except ε α} {f : α → Except ε β} {b : β} :
    x >>= f = .ok b ↔ ∃ a, x = .ok a ∧ f a = .ok b := by
  cases x <;> simp [bind, Except.bind]

/-- A sequence fails where its first part does, or where the rest does. -/
theorem bind_eq_error {ε α β : Type} {x : Except ε α} {f : α → Except ε β} {e : ε} :
    x >>= f = .error e ↔ x = .error e ∨ ∃ a, x = .ok a ∧ f a = .error e := by
  cases x <;> simp [bind, Except.bind]

theorem mapError_eq_error {ε ε' α : Type} {f : ε → ε'} {x : Except ε α} {e' : ε'} :
    x.mapError f = .error e' ↔ ∃ e, x = .error e ∧ f e = e' := by
  cases x <;> simp [Except.mapError]

/-- A check and what follows it. -/
theorem check_bind_eq_ok {ε β : Type} {x : Except ε Unit} {f : Unit → Except ε β} {b : β} :
    x >>= f = .ok b ↔ x = .ok () ∧ f () = .ok b := by
  rw [bind_eq_ok]
  constructor
  · rintro ⟨u, hx, hf⟩
    exact ⟨hx, hf⟩
  · rintro ⟨hx, hf⟩
    exact ⟨(), hx, hf⟩

theorem pure_eq_ok {ε α : Type} {a b : α} : (pure a : Except ε α) = .ok b ↔ a = b := by
  simp [pure, Except.pure]

/-- A result, with the proof that its value is the one it ends with. -/
def attach {ε α : Type} : (x : Except ε α) → Except ε { a // x = .ok a }
  | .ok a => .ok ⟨a, rfl⟩
  | .error e => .error e

/-- Two computations that end with related values, or with one error. -/
inductive Agree {ε α β : Type} (R : α → β → Prop) : Except ε α → Except ε β → Prop where
  | error (e : ε) : Agree R (.error e) (.error e)
  | ok {a : α} {b : β} (h : R a b) : Agree R (.ok a) (.ok b)

/-- A step that both take. -/
theorem Agree.bind {ε α β γ : Type} {R : α → β → Prop} {x : Except ε γ} {f : γ → Except ε α}
    {g : γ → Except ε β} (h : ∀ c, x = .ok c → Agree R (f c) (g c)) :
    Agree R (x >>= f) (x >>= g) := by
  cases x with
  | error e => exact .error e
  | ok c => exact h c rfl

/-- A step that only one of them takes, and that ends with a value. -/
theorem Agree.bind_left {ε α β γ : Type} {R : α → β → Prop} {x : Except ε γ} {c : γ}
    {f : γ → Except ε α} {y : Except ε β} (hx : x = .ok c) (h : Agree R (f c) y) :
    Agree R (x >>= f) y := by
  rw [hx]
  exact h

/-- A traversal ends with a list exactly when it ends with a value at each element. -/
theorem mapM_eq_ok {ε α β : Type} {f : α → Except ε β} :
    ∀ {as : List α} {bs : List β},
      as.mapM f = .ok bs ↔ List.Forall₂ (fun a b => f a = .ok b) as bs
  | [], bs => by
      rw [List.mapM_nil, pure_eq_ok, List.forall₂_nil_left_iff]
      exact eq_comm
  | a :: as, bs => by
      rw [List.mapM_cons, bind_eq_ok, List.forall₂_cons_left_iff]
      constructor
      · rintro ⟨b, hb, h⟩
        obtain ⟨bs', hbs', h⟩ := bind_eq_ok.mp h
        exact ⟨b, bs', hb, mapM_eq_ok.mp hbs', (pure_eq_ok.mp h).symm⟩
      · rintro ⟨b, bs', hb, hbs', rfl⟩
        exact ⟨b, hb, bind_eq_ok.mpr ⟨bs', mapM_eq_ok.mpr hbs', rfl⟩⟩

/-- A traversal fails where it fails at some element. -/
theorem mapM_eq_error {ε α β : Type} {f : α → Except ε β} {e : ε} :
    ∀ {as : List α}, as.mapM f = .error e → ∃ a ∈ as, f a = .error e
  | [], h => by
      rw [List.mapM_nil] at h
      cases h
  | a :: as, h => by
      rw [List.mapM_cons] at h
      rcases bind_eq_error.mp h with ha | ⟨b, -, h⟩
      · exact ⟨a, List.mem_cons_self, ha⟩
      rcases bind_eq_error.mp h with has | ⟨bs, -, h⟩
      · obtain ⟨a', ha', hf⟩ := mapM_eq_error has
        exact ⟨a', List.mem_cons_of_mem _ ha', hf⟩
      · cases h

/-- Related lists: every element on the left has a partner. -/
theorem exists_right_of_forall₂ {α β : Type} {R : α → β → Prop} {as : List α} {bs : List β}
    (h : List.Forall₂ R as bs) {a : α} (ha : a ∈ as) : ∃ b ∈ bs, R a b := by
  induction h with
  | nil => cases ha
  | cons hab _ ih =>
      rcases List.mem_cons.mp ha with rfl | ha
      · exact ⟨_, List.mem_cons_self, hab⟩
      · obtain ⟨b, hb, hR⟩ := ih ha
        exact ⟨b, List.mem_cons_of_mem _ hb, hR⟩

/-- Related lists: every element on the right has a partner. -/
theorem exists_left_of_forall₂ {α β : Type} {R : α → β → Prop} {as : List α} {bs : List β}
    (h : List.Forall₂ R as bs) {b : β} (hb : b ∈ bs) : ∃ a ∈ as, R a b :=
  exists_right_of_forall₂ h.flip hb

/-- Partners for every element on the left make a list. -/
theorem exists_forall₂ {α β : Type} {R : α → β → Prop} {as : List α}
    (h : ∀ a ∈ as, ∃ b, R a b) : ∃ bs, List.Forall₂ R as bs := by
  induction as with
  | nil => exact ⟨[], .nil⟩
  | cons a as ih =>
      obtain ⟨b, hb⟩ := h a List.mem_cons_self
      obtain ⟨bs, hbs⟩ := ih fun a' ha' => h a' (List.mem_cons_of_mem a ha')
      exact ⟨b :: bs, .cons hb hbs⟩

/-- Collecting results ends well exactly when each is a success. -/
theorem mapM_mapError_eq_ok {ε ε' α : Type} {f : ε → ε'} {results : List (Except ε α)}
    {as : List α} :
    (results.mapM fun result => result.mapError f) = .ok as ↔ results = as.map .ok := by
  rw [mapM_eq_ok]
  constructor
  · intro h
    induction h with
    | nil => rfl
    | cons hr _ ih => rw [mapError_eq_ok.mp hr, ih, List.map_cons]
  · rintro rfl
    exact List.forall₂_map_left_iff.mpr (List.forall₂_same.mpr fun a _ => rfl)

/-- A loop of checks passes exactly when every check passes. -/
theorem forM_eq_ok {ε α : Type} {check : α → Except ε Unit} {as : List α} :
    as.forM check = .ok () ↔ ∀ a ∈ as, check a = .ok () := by
  induction as with
  | nil => simp [pure, Except.pure]
  | cons a as ih =>
      change (check a >>= fun _ => as.forM check) = .ok () ↔ _
      rw [check_bind_eq_ok, List.forall_mem_cons, ← ih]

/-- A loop whose steps all end with a value ends with one. -/
theorem exists_foldlM_eq_ok {ε α β : Type} {f : β → α → Except ε β} {as : List α}
    (h : ∀ a ∈ as, ∀ b, ∃ b', f b a = .ok b') (b : β) : ∃ b', as.foldlM f b = .ok b' := by
  induction as generalizing b with
  | nil => exact ⟨b, rfl⟩
  | cons a as ih =>
      obtain ⟨b₁, hb₁⟩ := h a List.mem_cons_self b
      obtain ⟨b₂, hb₂⟩ := ih (fun a' ha' => h a' (List.mem_cons_of_mem a ha')) b₁
      exact ⟨b₂, by rw [List.foldlM_cons, hb₁]; exact hb₂⟩

end Support
