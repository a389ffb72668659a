import Mathlib

/-!
# Support — replacing a text in another

`replaceAll old new as` replaces every occurrence of `old` in `as`, from left to right, by `new`.

* `replaceAll_eq_self_iff`: nothing changes exactly when there is no occurrence, where `new` is the
  longer one.
* `replaceAll_append_old`: an occurrence at the end is replaced, where `old` cannot overlap itself.
-/

namespace Support

/-! ### Texts that do not overlap themselves -/

section Overlap

variable {α : Type*} {old : List α}

/-- The first element of a text comes in it once, so that no two occurrences overlap. -/
def NoOverlap (old : List α) : Prop := ∀ a as, old = a :: as → a ∉ as

/-- What an occurrence at the end begins is no occurrence. -/
theorem NoOverlap.prefix_of_append (h : NoOverlap old) {a : α} {as : List α}
    (hstart : old <+: a :: as ++ old) : old <+: a :: as := by
  rcases List.prefix_or_prefix_of_prefix hstart (List.prefix_append (a :: as) old) with
    hshort | ⟨rest, rfl⟩
  · exact hshort
  · cases rest with
    | nil => simp
    | cons b rest =>
        -- the text would begin again with its first element
        have hagain := (List.prefix_append_right_inj (a :: as)).mp hstart
        have hhead : b = a := (List.cons_prefix_cons.mp hagain).1
        exact absurd (by rw [hhead]; simp) (h a (as ++ b :: rest) rfl)

end Overlap

/-! ### Replacing -/

variable {α : Type*} [DecidableEq α]

/-- Every occurrence is replaced, after the first elements, which are left out. -/
def replaceFrom (old new : List α) : ℕ → List α → List α
  | _, [] => []
  | skip + 1, _ :: as => replaceFrom old new skip as
  | 0, a :: as =>
      if old.isPrefixOf (a :: as) then new ++ replaceFrom old new (old.length - 1) as
      else a :: replaceFrom old new 0 as

/-- Every occurrence is replaced, for a text that is not empty. -/
def replaceAll (old new as : List α) : List α := replaceFrom old new 0 as

variable {old new : List α}

theorem replaceFrom_eq (skip : ℕ) (as : List α) :
    replaceFrom old new skip as = replaceAll old new (as.drop skip) := by
  induction as generalizing skip with
  | nil => cases skip <;> rfl
  | cons a as ih =>
      cases skip with
      | zero => rfl
      | succ skip => exact ih skip

theorem replaceAll_nil : replaceAll old new [] = [] := rfl

theorem replaceAll_old_append (hne : old ≠ []) (as : List α) :
    replaceAll old new (old ++ as) = new ++ replaceAll old new as := by
  obtain ⟨a, rest, rfl⟩ := List.exists_cons_of_ne_nil hne
  have hstart : (a :: rest).isPrefixOf (a :: (rest ++ as)) = true :=
    List.isPrefixOf_iff_prefix.mpr (List.prefix_append (a :: rest) as)
  rw [replaceAll, List.cons_append, replaceFrom, if_pos hstart, replaceFrom_eq,
    List.length_cons, Nat.add_sub_cancel, List.drop_left]

theorem replaceAll_cons {a : α} {as : List α} (h : ¬ old <+: a :: as) :
    replaceAll old new (a :: as) = a :: replaceAll old new as := by
  rw [replaceAll, replaceFrom, if_neg fun hstart => h (List.isPrefixOf_iff_prefix.mp hstart)]
  rfl

/-- Induction along the occurrences. -/
theorem replaceAll_induction {motive : List α → Prop} (hne : old ≠ []) (nil : motive [])
    (occurrence : ∀ as, motive as → motive (old ++ as))
    (other : ∀ a as, ¬ old <+: a :: as → motive as → motive (a :: as)) :
    ∀ as, motive as
  | [] => nil
  | a :: as => by
      by_cases h : old <+: a :: as
      · obtain ⟨rest, hrest⟩ := h
        have hlength : rest.length ≤ as.length := by
          have hpos := List.length_pos_of_ne_nil hne
          have hsum := congrArg List.length hrest
          rw [List.length_append, List.length_cons] at hsum
          omega
        exact hrest ▸ occurrence rest (replaceAll_induction hne nil occurrence other rest)
      · exact other a as h (replaceAll_induction hne nil occurrence other as)
termination_by as => as.length

/-- With a longer text for another, a text grows when there is something to replace. -/
theorem length_lt_replaceAll (hne : old ≠ []) (hlonger : old.length < new.length) (as : List α) :
    as.length ≤ (replaceAll old new as).length ∧
      (old <:+: as → as.length < (replaceAll old new as).length) := by
  induction as using replaceAll_induction hne with
  | nil => exact ⟨le_refl _, fun h => absurd (List.infix_nil.mp h) hne⟩
  | occurrence as ih =>
      rw [replaceAll_old_append hne, List.length_append, List.length_append]
      omega
  | other a as h ih =>
      rw [replaceAll_cons h]
      refine ⟨Nat.succ_le_succ ih.1, fun hinfix => Nat.succ_lt_succ (ih.2 ?_)⟩
      exact (List.infix_cons_iff.mp hinfix).resolve_left h

/-- Nothing changes exactly when there is nothing to replace. -/
theorem replaceAll_eq_self_iff (hne : old ≠ []) (hlonger : old.length < new.length)
    (as : List α) : replaceAll old new as = as ↔ ¬ old <:+: as := by
  constructor
  · intro heq hinfix
    have hlt := (length_lt_replaceAll hne hlonger as).2 hinfix
    rw [heq] at hlt
    exact lt_irrefl _ hlt
  · intro hno
    induction as with
    | nil => rfl
    | cons a as ih =>
        rw [replaceAll_cons fun h => hno h.isInfix,
          ih fun h => hno (List.infix_cons_iff.mpr (.inr h))]

theorem replaceAll_append_old (hne : old ≠ []) (h : NoOverlap old) (as : List α) :
    replaceAll old new (as ++ old) = replaceAll old new as ++ new := by
  induction as using replaceAll_induction hne with
  | nil =>
      have hself : replaceAll old new (old ++ []) = new ++ replaceAll old new [] :=
        replaceAll_old_append hne []
      rw [List.append_nil, replaceAll_nil, List.append_nil] at hself
      exact hself
  | occurrence as ih =>
      rw [List.append_assoc, replaceAll_old_append hne, replaceAll_old_append hne, ih,
        List.append_assoc]
  | other a as hother ih =>
      have hother' : ¬ old <+: a :: (as ++ old) := fun hstart =>
        hother (h.prefix_of_append hstart)
      rw [List.cons_append, replaceAll_cons hother', replaceAll_cons hother, ih, List.cons_append]

end Support
