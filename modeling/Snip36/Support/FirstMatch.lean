import Mathlib

/-!
# Support — the first match in a text

A search tries a match at every place of a text, from left to right (`List.tails` and
`List.findSome?`).  `FirstAt P as b` says that `b` is matched at the first place where anything is,
and `Nowhere P as` that nothing is matched; `P as b` is a match of `b` at the beginning of `as`.

`takeWhile_of_stops`: what a greedy repetition takes.
-/

namespace Support

variable {α β : Type*}

/-- What is matched at the first place where something is. -/
def FirstAt (P : List α → β → Prop) (as : List α) (b : β) : Prop :=
  ∃ before after, as = before ++ after ∧ P after b ∧
    ∀ before' after' b', as = before' ++ after' → before'.length < before.length → ¬ P after' b'

/-- Nothing is matched. -/
def Nowhere (P : List α → β → Prop) (as : List α) : Prop :=
  ∀ before after b, as = before ++ after → ¬ P after b

variable {P : List α → β → Prop} {f : List α → Option β}

theorem nowhere_cons_iff {a : α} {as : List α} :
    Nowhere P (a :: as) ↔ (∀ b, ¬ P (a :: as) b) ∧ Nowhere P as := by
  constructor
  · intro h
    exact ⟨fun b => h [] (a :: as) b rfl, fun before after b has =>
      h (a :: before) after b (by rw [has, List.cons_append])⟩
  · rintro ⟨hhead, htail⟩ before after b has
    cases before with
    | nil =>
        obtain rfl := has
        exact hhead b
    | cons a' before => exact htail before after b (List.cons.inj has).2

theorem firstAt_cons_iff {a : α} {as : List α} {b : β} :
    FirstAt P (a :: as) b ↔ P (a :: as) b ∨ (∀ b', ¬ P (a :: as) b') ∧ FirstAt P as b := by
  constructor
  · rintro ⟨before, after, has, hmatch, hfirst⟩
    cases before with
    | nil =>
        obtain rfl := has
        exact .inl hmatch
    | cons a' before =>
        obtain ⟨rfl, rfl⟩ := List.cons.inj has
        refine .inr ⟨fun b' => hfirst [] _ b' rfl (Nat.zero_lt_succ _), before, after, rfl, hmatch,
          fun before' after' b' has' hlt => ?_⟩
        exact hfirst (a :: before') after' b' (by rw [has', List.cons_append])
          (Nat.succ_lt_succ hlt)
  · rintro (hmatch | ⟨hhead, before, after, rfl, hmatch, hfirst⟩)
    · exact ⟨[], a :: as, rfl, hmatch, fun _ _ _ _ hlt => absurd hlt (Nat.not_lt_zero _)⟩
    · refine ⟨a :: before, after, rfl, hmatch, fun before' after' b' has' hlt => ?_⟩
      cases before' with
      | nil =>
          obtain rfl := has'
          exact hhead b'
      | cons a' before' =>
          exact hfirst before' after' b' (List.cons.inj has').2 (Nat.lt_of_succ_lt_succ hlt)

/-- **What a search finds**, where it tries `f` at every place. -/
theorem findSome?_tails (hf : ∀ as b, f as = some b ↔ P as b) (as : List α) :
    (∀ b, as.tails.findSome? f = some b ↔ FirstAt P as b) ∧
      (as.tails.findSome? f = none ↔ Nowhere P as) := by
  have hnone : ∀ as, f as = none ↔ ∀ b, ¬ P as b := by
    intro as
    rw [Option.eq_none_iff_forall_ne_some]
    exact forall_congr' fun b => not_congr (hf as b)
  induction as with
  | nil =>
      have hsingle : ([] : List α).tails.findSome? f = f [] := by
        rw [List.tails, List.findSome?_cons, List.findSome?_nil]
        cases f [] <;> rfl
      rw [hsingle]
      refine ⟨fun b => (hf [] b).trans ⟨fun h => ⟨[], [], rfl, h, fun _ _ _ _ hlt => absurd hlt
        (Nat.not_lt_zero _)⟩, ?_⟩, (hnone []).trans ⟨?_, fun h b => h [] [] b rfl⟩⟩
      · rintro ⟨before, after, has, hmatch, -⟩
        obtain ⟨rfl, rfl⟩ := List.append_eq_nil_iff.mp has.symm
        exact hmatch
      · rintro h before after b has
        obtain ⟨rfl, rfl⟩ := List.append_eq_nil_iff.mp has.symm
        exact h b
  | cons a as ih =>
      rw [List.tails_cons, List.findSome?_cons]
      cases hhead : f (a :: as) with
      | none =>
          have hno := (hnone (a :: as)).mp hhead
          exact ⟨fun b => (ih.1 b).trans ⟨fun h => firstAt_cons_iff.mpr (.inr ⟨hno, h⟩),
            fun h => ((firstAt_cons_iff.mp h).resolve_left (hno b)).2⟩,
            ih.2.trans ⟨fun h => nowhere_cons_iff.mpr ⟨hno, h⟩, fun h => (nowhere_cons_iff.mp h).2⟩⟩
      | some b₀ =>
          have hyes := (hf (a :: as) b₀).mp hhead
          refine ⟨fun b => ⟨?_, fun h => ?_⟩, iff_of_false (by simp) fun h =>
            (nowhere_cons_iff.mp h).1 b₀ hyes⟩
          · intro h
            exact firstAt_cons_iff.mpr (.inl (Option.some.inj h ▸ hyes))
          · refine (firstAt_cons_iff.mp h).elim (fun hb => ?_) fun hb => absurd hyes (hb.1 b₀)
            exact hhead.symm.trans ((hf (a :: as) b).mpr hb)

/-- No element with the property comes first. -/
def Stops (p : α → Bool) (as : List α) : Prop := ∀ a, as.head? = some a → p a = false

theorem takeWhile_of_stops {p : α → Bool} {run rest : List α} (hrun : ∀ a ∈ run, p a = true)
    (hrest : Stops p rest) :
    (run ++ rest).takeWhile p = run ∧ (run ++ rest).dropWhile p = rest := by
  have hnone : rest.takeWhile p = [] ∧ rest.dropWhile p = rest := by
    cases rest with
    | nil => exact ⟨rfl, rfl⟩
    | cons a rest =>
        have ha := hrest a rfl
        simp [ha]
  rw [List.takeWhile_append_of_pos hrun, List.dropWhile_append_of_pos hrun, hnone.1, hnone.2]
  exact ⟨List.append_nil run, rfl⟩

theorem stops_cons {p : α → Bool} {a : α} (h : p a = false) (as : List α) : Stops p (a :: as) := by
  intro b hb
  obtain rfl := Option.some.inj hb
  exact h

/-- Where a run stops, what follows it tells. -/
theorem append_inj_of_stops {p : α → Bool} {run run' rest rest' : List α}
    (hrun : ∀ a ∈ run, p a = true) (hrun' : ∀ a ∈ run', p a = true) (hrest : Stops p rest)
    (hrest' : Stops p rest') (h : run ++ rest = run' ++ rest') : run = run' ∧ rest = rest' := by
  obtain ⟨htake, hdrop⟩ := takeWhile_of_stops hrun hrest
  obtain ⟨htake', hdrop'⟩ := takeWhile_of_stops hrun' hrest'
  exact ⟨htake.symm.trans ((congrArg (List.takeWhile p) h).trans htake'),
    hdrop.symm.trans ((congrArg (List.dropWhile p) h).trans hdrop')⟩

theorem stops_dropWhile (p : α → Bool) (as : List α) : Stops p (as.dropWhile p) := by
  intro a ha
  cases hdrop : as.dropWhile p with
  | nil => rw [hdrop] at ha; cases ha
  | cons b rest =>
      have hb := List.head?_dropWhile_not p as
      rw [hdrop] at ha hb
      obtain rfl := Option.some.inj ha
      simpa using hb

end Support
