import Snip36.Support.Fallible

/-!
# Support — a client's session with a server

A `Session` is a computation that sends requests and keeps the log of its exchanges.  The server
answers the `n`-th request as it likes, so every sequence of replies is some server's.

`mapM_send_eq_ok` is the run of a loop that sends one request for each element of a list: it ends
with a reply to every request, in order, and the log grows by exactly these exchanges.
-/

namespace Support

variable {ρ σ ε ε' α β : Type}

/-- A computation that may send requests `ρ` for replies `σ`. -/
abbrev Session (ρ σ ε α : Type) := StateT (List (ρ × σ)) (Fallible ε) α

/-- Send a request; an error of the server is an error of the session. -/
def send (server : ℕ → ρ → Except ε' σ) (f : ε' → ε) (request : ρ) : Session ρ σ ε σ :=
  fun log => do
    let reply ← orErr f (server log.length request)
    pure (reply, log ++ [(request, reply)])

/-- The server answers the requests, from its `n`-th on, with the replies. -/
inductive Answered (server : ℕ → ρ → Except ε' σ) : ℕ → List ρ → List σ → Prop where
  | nil (n : ℕ) : Answered server n [] []
  | cons {n : ℕ} {r : ρ} {rs : List ρ} {s : σ} {ss : List σ} (h : server n r = .ok s)
      (t : Answered server (n + 1) rs ss) : Answered server n (r :: rs) (s :: ss)

namespace Answered

variable {server : ℕ → ρ → Except ε' σ}

theorem length_eq {n : ℕ} {rs : List ρ} {ss : List σ} (h : Answered server n rs ss) :
    ss.length = rs.length := by
  induction h with
  | nil => rfl
  | cons _ _ ih => simp [ih]

/-- A server that answers every request of a list answers the list. -/
theorem exists_of_total (request : α → ρ) {P : α → σ → Prop} :
    ∀ (n : ℕ) (as : List α), (∀ i, ∀ a ∈ as, ∃ s, server i (request a) = .ok s ∧ P a s) →
      ∃ ss, Answered server n (as.map request) ss ∧ List.Forall₂ P as ss
  | n, [], _ => ⟨[], .nil n, .nil⟩
  | n, a :: as, h => by
      obtain ⟨s, hs, hP⟩ := h n a (by simp)
      obtain ⟨ss, hss, hPs⟩ := exists_of_total request (n + 1) as fun i b hb => h i b (by simp [hb])
      exact ⟨s :: ss, .cons hs hss, .cons hP hPs⟩

end Answered

namespace Session

theorem bind_eq_ok {x : Session ρ σ ε α} {f : α → Session ρ σ ε β} {log log' : List (ρ × σ)}
    {b : β} : (x >>= f) log = .ok (b, log') ↔
      ∃ a log₁, x log = .ok (a, log₁) ∧ f a log₁ = .ok (b, log') := by
  change (x log >>= fun p => f p.1 p.2) = .ok (b, log') ↔ _
  rw [Support.bind_eq_ok]
  exact Prod.exists

theorem pure_eq_ok {a b : α} {log log' : List (ρ × σ)} :
    (pure a : Session ρ σ ε α) log = .ok (b, log') ↔ a = b ∧ log = log' := by
  simp [pure, StateT.pure, Except.pure]

/-- A computation that sends nothing leaves the log alone. -/
theorem lift_eq_ok {x : Fallible ε α} {a : α} {log log' : List (ρ × σ)} :
    (liftM x : Session ρ σ ε α) log = .ok (a, log') ↔ x = .ok a ∧ log = log' := by
  change (x >>= fun a => pure (a, log)) = .ok (a, log') ↔ _
  rw [Support.bind_eq_ok]
  constructor
  · rintro ⟨a', hx, h⟩
    obtain ⟨rfl, rfl⟩ := Prod.mk.inj (Support.pure_eq_ok.mp h)
    exact ⟨hx, rfl⟩
  · rintro ⟨hx, rfl⟩
    exact ⟨a, hx, rfl⟩

theorem send_eq_ok {server : ℕ → ρ → Except ε' σ} {f : ε' → ε} {r : ρ} {s : σ}
    {log log' : List (ρ × σ)} : send server f r log = .ok (s, log') ↔
      server log.length r = .ok s ∧ log' = log ++ [(r, s)] := by
  rw [send, Support.bind_eq_ok]
  constructor
  · rintro ⟨s', hs, h⟩
    obtain ⟨rfl, rfl⟩ := Prod.mk.inj (Support.pure_eq_ok.mp h)
    exact ⟨orErr_eq_ok.mp hs, rfl⟩
  · rintro ⟨hs, rfl⟩
    exact ⟨s, orErr_eq_ok.mpr hs, rfl⟩

/-- A loop that sends one request for each element ends exactly when every request is answered,
and logs these exchanges. -/
theorem mapM_send_eq_ok {server : ℕ → ρ → Except ε' σ} {f : ε' → ε} (request : α → ρ) :
    ∀ {as : List α} {replies : List σ} {log log' : List (ρ × σ)},
      (as.mapM fun a => send server f (request a)) log = .ok (replies, log') ↔
        Answered server log.length (as.map request) replies ∧
          log' = log ++ (as.map request).zip replies := by
  intro as
  induction as with
  | nil =>
      intro replies log log'
      rw [List.mapM_nil, pure_eq_ok]
      constructor
      · rintro ⟨rfl, rfl⟩
        exact ⟨.nil _, by simp⟩
      · rintro ⟨⟨⟩, rfl⟩
        exact ⟨rfl, by simp⟩
  | cons a as ih =>
      intro replies log log'
      rw [List.mapM_cons, bind_eq_ok]
      constructor
      · rintro ⟨s, log₁, hsend, h⟩
        obtain ⟨hs, rfl⟩ := send_eq_ok.mp hsend
        obtain ⟨ss, log₂, hrest, hpure⟩ := bind_eq_ok.mp h
        obtain ⟨hss, rfl⟩ := ih.mp hrest
        obtain ⟨rfl, rfl⟩ := pure_eq_ok.mp hpure
        rw [List.length_append] at hss
        exact ⟨.cons hs hss, by simp⟩
      · rintro ⟨h, rfl⟩
        cases h with
        | cons hs hss =>
            rename_i s ss
            refine ⟨s, log ++ [(request a, s)], send_eq_ok.mpr ⟨hs, rfl⟩, bind_eq_ok.mpr
              ⟨ss, log ++ [(request a, s)] ++ (as.map request).zip ss, ih.mpr ⟨?_, rfl⟩, ?_⟩⟩
            · rw [List.length_append]
              exact hss
            · exact pure_eq_ok.mpr ⟨rfl, by simp⟩

end Session

end Support
