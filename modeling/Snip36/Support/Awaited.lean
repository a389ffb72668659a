import Mathlib

/-!
# Support — what is awaited of a store

Several parties share a store.  `awaited i` is what the party `i` is to find there: a key and a
value.  `Held` says that everybody finds what is awaited.

A write by one party keeps this when it leaves alone what the others await (`Spares`,
`Held.write`).
-/

namespace Support

variable {ι κ τ : Type*}

/-- Everything that is awaited is in the store. -/
def Held (store : κ → Option τ) (awaited : ι → Option (κ × τ)) : Prop :=
  ∀ i key value, awaited i = some (key, value) → store key = some value

/-- A write by `j` puts what they await where the others await something. -/
def Spares (awaited : ι → Option (κ × τ)) (j : ι) (key : κ) (value : τ) : Prop :=
  ∀ i, i ≠ j → ∀ value', awaited i = some (key, value') → value' = value

variable {store : κ → Option τ} {awaited awaited' : ι → Option (κ × τ)}

theorem Held.mono (h : Held store awaited)
    (hsub : ∀ i a, awaited' i = some a → awaited i = some a) : Held store awaited' :=
  fun i key value ha => h i key value (hsub i _ ha)

/-- **What a write keeps**: it spares the others, and its own party awaits what it wrote or what it
awaited elsewhere. -/
theorem Held.write [DecidableEq κ] {j : ι} {key : κ} {value : τ} (h : Held store awaited)
    (hspares : Spares awaited j key value)
    (hothers : ∀ i, i ≠ j → ∀ a, awaited' i = some a → awaited i = some a)
    (hown : ∀ a, awaited' j = some a → a = (key, value)) :
    Held (Function.update store key (some value)) awaited' := by
  intro i key' value' ha
  by_cases hi : i = j
  · subst hi
    obtain ⟨rfl, rfl⟩ := Prod.mk.inj (hown _ ha)
    exact Function.update_self ..
  · have hold := hothers i hi _ ha
    by_cases hkey : key' = key
    · subst hkey
      rw [Function.update_self, hspares i hi value' hold]
    · rw [Function.update_of_ne hkey]
      exact h i key' value' hold

end Support
