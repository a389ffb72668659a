import Mathlib

/-!
# Support — distinct elements

`distinct as` has the elements of `as` once each, in the order in which they first come:
`firstOccurrences_distinct`.  A list without repetitions is its own (`distinct_eq_self`).
-/

namespace Support

variable {α : Type*} [DecidableEq α]

/-- An element is put at the end of a list that does not have it. -/
def pushNew (seen : List α) (a : α) : List α := if a ∈ seen then seen else seen ++ [a]

/-- Every element once. -/
def distinct (as : List α) : List α := as.foldl pushNew []

/-- The elements of `as` once each, in the order in which they first come. -/
structure FirstOccurrences (as out : List α) : Prop where
  nodup : out.Nodup
  mem_iff : ∀ a, a ∈ out ↔ a ∈ as
  ordered : out.Pairwise fun a b => as.idxOf a < as.idxOf b

theorem FirstOccurrences.pushNew {as out : List α} (h : FirstOccurrences as out) (a : α) :
    FirstOccurrences (as ++ [a]) (pushNew out a) := by
  have hkept : out.Pairwise fun b c => (as ++ [a]).idxOf b < (as ++ [a]).idxOf c := by
    refine h.ordered.imp_of_mem fun hb hc hlt => ?_
    rwa [List.idxOf_append_of_mem ((h.mem_iff _).mp hb),
      List.idxOf_append_of_mem ((h.mem_iff _).mp hc)]
  rw [Support.pushNew]
  split
  · next ha =>
      refine ⟨h.nodup, fun b => ?_, hkept⟩
      rw [List.mem_append, List.mem_singleton, ← h.mem_iff]
      exact ⟨.inl, fun hb => hb.elim id fun hb => hb ▸ ha⟩
  · next ha =>
      refine ⟨?_, fun b => ?_, ?_⟩
      · exact List.nodup_append.mpr ⟨h.nodup, List.nodup_singleton a, fun b hb c hc hbc => ha
          (List.mem_singleton.mp hc ▸ hbc ▸ hb)⟩
      · rw [List.mem_append, List.mem_append, h.mem_iff]
      · refine List.pairwise_append.mpr ⟨hkept, List.pairwise_singleton _ _, fun b hb c hc => ?_⟩
        obtain rfl := List.mem_singleton.mp hc
        have hb' := (h.mem_iff b).mp hb
        rw [List.idxOf_append_of_mem hb',
          List.idxOf_append_of_notMem fun hc' => ha ((h.mem_iff c).mpr hc')]
        exact Nat.lt_add_right _ (List.idxOf_lt_length_of_mem hb')

theorem firstOccurrences_distinct (as : List α) : FirstOccurrences as (distinct as) := by
  induction as using List.reverseRecOn with
  | nil => exact ⟨List.nodup_nil, fun a => Iff.rfl, .nil⟩
  | append_singleton as a ih =>
      rw [distinct, List.foldl_append]
      exact ih.pushNew a

theorem distinct_eq_self {as : List α} (h : as.Nodup) : distinct as = as := by
  induction as using List.reverseRecOn with
  | nil => rfl
  | append_singleton as a ih =>
      obtain ⟨has, -, hdisjoint⟩ := List.nodup_append.mp h
      have ha : a ∉ as := fun hmem => hdisjoint a hmem a List.mem_cons_self rfl
      have hstep : distinct (as ++ [a]) = pushNew (distinct as) a := by
        rw [distinct, List.foldl_append]
        rfl
      rw [hstep, ih has, pushNew, if_neg ha]

end Support
