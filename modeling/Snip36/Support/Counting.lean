import Mathlib

/-!
# Support — how many of the first `n`

`Nat.count p n` is how many of the numbers below `n` have the property `p`.  Here is how the count
changes when the property does, at one number or by one more number.
-/

namespace Support

variable {p q r : ℕ → Prop} [DecidablePred p] [DecidablePred q] [DecidablePred r] {n k : ℕ}

theorem count_of_iff (h : ∀ i < n, p i ↔ q i) : Nat.count p n = Nat.count q n :=
  le_antisymm (Nat.count_mono_left fun i hi => (h i hi).mp)
    (Nat.count_mono_left fun i hi => (h i hi).mpr)

/-- One number loses the property. -/
theorem count_of_drop (hk : k < n) (hp : p k) (hq : ¬ q k) (h : ∀ i < n, i ≠ k → (q i ↔ p i)) :
    Nat.count q n + 1 = Nat.count p n := by
  induction n with
  | zero => exact absurd hk (Nat.not_lt_zero k)
  | succ n ih =>
      rw [Nat.count_succ, Nat.count_succ]
      by_cases hkn : k = n
      · subst hkn
        rw [if_neg hq, if_pos hp, count_of_iff fun i hi => h i (hi.trans k.lt_succ_self) hi.ne]
      · have hlt : k < n := by omega
        have hrest := ih hlt fun i hi => h i (hi.trans n.lt_succ_self)
        have hn := h n n.lt_succ_self fun heq => hkn heq.symm
        simp only [hn]
        omega

/-- A property in two parts. -/
theorem count_of_or (h : ∀ i < n, p i ↔ q i ∨ r i) (hqr : ∀ i < n, q i → ¬ r i) :
    Nat.count p n = Nat.count q n + Nat.count r n := by
  induction n with
  | zero => rfl
  | succ n ih =>
      have hrest := ih (fun i hi => h i (hi.trans n.lt_succ_self))
        (fun i hi => hqr i (hi.trans n.lt_succ_self))
      have hn := h n n.lt_succ_self
      rw [Nat.count_succ, Nat.count_succ, Nat.count_succ, hrest]
      by_cases hq : q n
      · have hr := hqr n n.lt_succ_self hq
        rw [if_pos (hn.mpr (.inl hq)), if_pos hq, if_neg hr]
        omega
      · by_cases hr : r n
        · rw [if_pos (hn.mpr (.inr hr)), if_neg hq, if_pos hr]
          omega
        · rw [if_neg fun hp => (hn.mp hp).elim hq hr, if_neg hq, if_neg hr]
          rfl

/-- The next number has the property as well. -/
theorem count_succ_of (hn : q n) (h : ∀ i < n, q i ↔ p i) :
    Nat.count q (n + 1) = Nat.count p n + 1 := by
  rw [Nat.count_succ, if_pos hn, count_of_iff h]

/-- The next number does not have it. -/
theorem count_succ_of_not (hn : ¬ q n) (h : ∀ i < n, q i ↔ p i) :
    Nat.count q (n + 1) = Nat.count p n := by
  rw [Nat.count_succ, if_neg hn, count_of_iff h]
  rfl

end Support
