import Snip36.Support.Runs

/-!
# Support — values that are used once

A box keeps values under keys.  A value is put in under a key, a holder takes it out, and then the
holder uses it or throws it away.

When no key is put twice, every value has one place: it is stored, or one holder has it, or it was
used, once (`Box.Once`).  `Box.run_once` is the run lemma.
-/

namespace Support

/-! ### Updates -/

section Update

variable {κ α : Type*} [DecidableEq κ] {f : κ → Option α} {k k' : κ} {a a' : α}

theorem update_some_eq_some :
    Function.update f k (some a) k' = some a' ↔
      (k' = k ∧ a' = a) ∨ (k' ≠ k ∧ f k' = some a') := by
  by_cases h : k' = k
  · simp [h, eq_comm]
  · simp [h]

theorem update_none_eq_some :
    Function.update f k none k' = some a' ↔ k' ≠ k ∧ f k' = some a' := by
  by_cases h : k' = k <;> simp [h]

theorem update_none_eq_none :
    Function.update f k none k' = none ↔ k' = k ∨ f k' = none := by
  by_cases h : k' = k <;> simp [h]

/-- What holds of every value holds after an update with such a value. -/
theorem forall_update {β : Type*} {P : β → Prop} {g : κ → β} {b : β} (h : ∀ k, P (g k))
    (hb : P b) : ∀ k', P (Function.update g k b k') :=
  (Function.forall_update_iff g fun _ => P).mpr ⟨hb, fun k' _ => h k'⟩

/-- The same, where there may be no value. -/
theorem forall_update_some {P : κ → α → Prop} (h : ∀ k a, f k = some a → P k a) (ha : P k a) :
    ∀ k' a', Function.update f k (some a) k' = some a' → P k' a' := by
  intro k' a' h'
  rcases update_some_eq_some.mp h' with ⟨rfl, rfl⟩ | ⟨-, h'⟩
  · exact ha
  · exact h k' a' h'

theorem forall_update_none {P : κ → α → Prop} (h : ∀ k a, f k = some a → P k a) :
    ∀ k' a', Function.update f k none k' = some a' → P k' a' :=
  fun k' a' h' => h k' a' (update_none_eq_some.mp h').2

/-- An update that changes nothing of what is read. -/
theorem apply_update_of_eq {β γ : Type*} {g : κ → β} {b : β} {read : β → γ}
    (h : read b = read (g k)) (k' : κ) : read (Function.update g k b k') = read (g k') := by
  by_cases hk : k' = k
  · subst hk
    rw [Function.update_self, h]
  · rw [Function.update_of_ne hk]

end Update

/-- When no key occurs twice, the entries with a key are one. -/
theorem eq_of_filterMap_nodup {α κ : Type*} {key : α → Option κ} {l : List α}
    (hl : (l.filterMap key).Nodup) {a b : α} {k : κ} (ha : a ∈ l) (hb : b ∈ l)
    (hka : key a = some k) (hkb : key b = some k) : a = b := by
  induction l with
  | nil => cases ha
  | cons c l ih =>
      have hmem : ∀ {d}, d ∈ l → key d = some k → k ∈ l.filterMap key :=
        fun hd hkd => List.mem_filterMap.mpr ⟨_, hd, hkd⟩
      rcases List.mem_cons.mp ha with rfl | ha' <;> rcases List.mem_cons.mp hb with rfl | hb'
      · rfl
      · rw [List.filterMap_cons_some hka, List.nodup_cons] at hl
        exact absurd (hmem hb' hkb) hl.1
      · rw [List.filterMap_cons_some hkb, List.nodup_cons] at hl
        exact absurd (hmem ha' hka) hl.1
      · refine ih ?_ ha' hb'
        exact hl.sublist ((List.sublist_cons_self c l).filterMap key)

/-! ### Boxes -/

/-- Values of `α` stored under keys of `κ`, taken out by holders of `ι`. -/
structure Box (κ ι α : Type*) where
  stored : κ → Option α
  held : ι → Option (κ × α)
  used : List (κ × α)

/-- What happens to a box. -/
inductive BoxEvent (κ ι α : Type*) where
  | put (k : κ) (a : α)
  | take (i : ι) (k : κ)
  | use (i : ι)
  | drop (i : ι)

namespace Box

variable {κ ι α : Type*}

/-- The empty box. -/
def empty : Box κ ι α := ⟨fun _ => none, fun _ => none, []⟩

/-- What an event does. -/
def step [DecidableEq κ] [DecidableEq ι] (b : Box κ ι α) : BoxEvent κ ι α → Option (Box κ ι α)
  | .put k a => some { b with stored := Function.update b.stored k (some a) }
  | .take i k =>
      match b.stored k, b.held i with
      | some a, none => some { b with
          stored := Function.update b.stored k none
          held := Function.update b.held i (some (k, a)) }
      | _, _ => none
  | .use i =>
      match b.held i with
      | some ka => some { b with
          held := Function.update b.held i none
          used := b.used ++ [ka] }
      | none => none
  | .drop i =>
      match b.held i with
      | some _ => some { b with held := Function.update b.held i none }
      | none => none

/-- The key of a put. -/
def putKey : BoxEvent κ ι α → Option κ
  | .put k _ => some k
  | _ => none

/-- Every value was put, and has one place. -/
structure Once (es : List (BoxEvent κ ι α)) (b : Box κ ι α) : Prop where
  put_of_stored : ∀ {k a}, b.stored k = some a → .put k a ∈ es
  put_of_held : ∀ {i k a}, b.held i = some (k, a) → .put k a ∈ es
  put_of_used : ∀ {k a}, (k, a) ∈ b.used → .put k a ∈ es
  held_inj : ∀ {i i' k a a'}, b.held i = some (k, a) → b.held i' = some (k, a') → i = i'
  not_stored_of_held : ∀ {i k a}, b.held i = some (k, a) → b.stored k = none
  not_stored_of_used : ∀ {k a}, (k, a) ∈ b.used → b.stored k = none
  not_held_of_used : ∀ {i k a a'}, (k, a) ∈ b.used → b.held i ≠ some (k, a')
  used_nodup : (b.used.map Prod.fst).Nodup

theorem once_empty : Once [] (empty : Box κ ι α) where
  put_of_stored h := absurd h (Option.some_ne_none _).symm
  put_of_held h := absurd h (Option.some_ne_none _).symm
  put_of_used h := absurd h List.not_mem_nil
  held_inj h := absurd h (Option.some_ne_none _).symm
  not_stored_of_held h := absurd h (Option.some_ne_none _).symm
  not_stored_of_used h := absurd h List.not_mem_nil
  not_held_of_used h := absurd h List.not_mem_nil
  used_nodup := List.nodup_nil

theorem mem_putKeys {es : List (BoxEvent κ ι α)} {k : κ} {a : α} (h : .put k a ∈ es) :
    k ∈ es.filterMap putKey :=
  List.mem_filterMap.mpr ⟨_, h, rfl⟩

/-- A put under a new key. -/
theorem Once.put [DecidableEq κ] {es : List (BoxEvent κ ι α)} {b : Box κ ι α} (h : Once es b)
    {k : κ} {a : α} (hk : k ∉ es.filterMap putKey) :
    Once (es ++ [.put k a]) { b with stored := Function.update b.stored k (some a) } := by
  have hold : ∀ {e}, e ∈ es → e ∈ es ++ [.put k a] := List.mem_append_left _
  have hheld : ∀ {i k' a'}, b.held i = some (k', a') → k' ≠ k := by
    rintro i k' a' h' rfl
    exact hk (mem_putKeys (h.put_of_held h'))
  have hused : ∀ {k' a'}, (k', a') ∈ b.used → k' ≠ k := by
    rintro k' a' h' rfl
    exact hk (mem_putKeys (h.put_of_used h'))
  constructor
  · intro k' a' h'
    rcases update_some_eq_some.mp h' with ⟨rfl, rfl⟩ | ⟨-, h'⟩
    · exact List.mem_append_right _ (List.mem_singleton_self _)
    · exact hold (h.put_of_stored h')
  · exact fun h' => hold (h.put_of_held h')
  · exact fun h' => hold (h.put_of_used h')
  · exact h.held_inj
  · exact fun h' => (Function.update_of_ne (hheld h') ..).trans (h.not_stored_of_held h')
  · exact fun h' => (Function.update_of_ne (hused h') ..).trans (h.not_stored_of_used h')
  · exact h.not_held_of_used
  · exact h.used_nodup

/-- A stored value goes to a holder. -/
theorem Once.take [DecidableEq κ] [DecidableEq ι] {es : List (BoxEvent κ ι α)} {b : Box κ ι α}
    (h : Once es b) {i : ι} {k : κ} {a : α} (hk : b.stored k = some a) :
    Once (es ++ [.take i k]) { b with
      stored := Function.update b.stored k none
      held := Function.update b.held i (some (k, a)) } := by
  have hold : ∀ {e}, e ∈ es → e ∈ es ++ [.take i k] := List.mem_append_left _
  have hstored : b.stored k ≠ none := by
    rw [hk]
    exact Option.some_ne_none a
  constructor
  · intro k' a' h'
    exact hold (h.put_of_stored (update_none_eq_some.mp h').2)
  · intro j k' a' h'
    rcases update_some_eq_some.mp h' with ⟨-, hka⟩ | ⟨-, hj⟩
    · obtain ⟨rfl, rfl⟩ := Prod.mk.inj hka
      exact hold (h.put_of_stored hk)
    · exact hold (h.put_of_held hj)
  · exact fun h' => hold (h.put_of_used h')
  · -- Nobody held `k` before: it was stored.
    intro j j' k' a' a'' h' h''
    rcases update_some_eq_some.mp h' with ⟨rfl, hka⟩ | ⟨-, hj⟩ <;>
      rcases update_some_eq_some.mp h'' with ⟨rfl, hka'⟩ | ⟨-, hj'⟩
    · rfl
    · obtain ⟨rfl, -⟩ := Prod.mk.inj hka
      exact absurd (h.not_stored_of_held hj') hstored
    · obtain ⟨rfl, -⟩ := Prod.mk.inj hka'
      exact absurd (h.not_stored_of_held hj) hstored
    · exact h.held_inj hj hj'
  · intro j k' a' h'
    rcases update_some_eq_some.mp h' with ⟨-, hka⟩ | ⟨-, hj⟩
    · exact update_none_eq_none.mpr (.inl (Prod.mk.inj hka).1)
    · exact update_none_eq_none.mpr (.inr (h.not_stored_of_held hj))
  · exact fun h' => update_none_eq_none.mpr (.inr (h.not_stored_of_used h'))
  · intro j k' a' a'' h' h''
    rcases update_some_eq_some.mp h'' with ⟨-, hka⟩ | ⟨-, hj⟩
    · obtain ⟨rfl, -⟩ := Prod.mk.inj hka
      exact hstored (h.not_stored_of_used h')
    · exact h.not_held_of_used h' hj
  · exact h.used_nodup

/-- A holder throws its value away. -/
theorem Once.drop [DecidableEq ι] {es : List (BoxEvent κ ι α)} {b : Box κ ι α} (h : Once es b)
    (i : ι) (e : BoxEvent κ ι α) :
    Once (es ++ [e]) { b with held := Function.update b.held i none } := by
  have hold : ∀ {e'}, e' ∈ es → e' ∈ es ++ [e] := List.mem_append_left _
  have hheld : ∀ {j ka}, Function.update b.held i none j = some ka → b.held j = some ka :=
    fun h' => (update_none_eq_some.mp h').2
  exact {
    put_of_stored := fun h' => hold (h.put_of_stored h')
    put_of_held := fun h' => hold (h.put_of_held (hheld h'))
    put_of_used := fun h' => hold (h.put_of_used h')
    held_inj := fun h' h'' => h.held_inj (hheld h') (hheld h'')
    not_stored_of_held := fun h' => h.not_stored_of_held (hheld h')
    not_stored_of_used := h.not_stored_of_used
    not_held_of_used := fun h' h'' => h.not_held_of_used h' (hheld h'')
    used_nodup := h.used_nodup }

/-- A holder uses its value. -/
theorem Once.use [DecidableEq ι] {es : List (BoxEvent κ ι α)} {b : Box κ ι α} (h : Once es b)
    {i : ι} {k : κ} {a : α} (hi : b.held i = some (k, a)) :
    Once (es ++ [.use i]) { b with
      held := Function.update b.held i none
      used := b.used ++ [(k, a)] } := by
  have hdrop := h.drop i (.use i)
  have hused : ∀ {k' a'}, (k', a') ∈ b.used ++ [(k, a)] →
      (k', a') ∈ b.used ∨ (k' = k ∧ a' = a) := by
    intro k' a' h'
    rcases List.mem_append.mp h' with h' | h'
    · exact .inl h'
    · exact .inr (Prod.mk.inj (List.mem_singleton.mp h'))
  constructor
  · exact hdrop.put_of_stored
  · exact hdrop.put_of_held
  · intro k' a' h'
    rcases hused h' with h' | ⟨rfl, rfl⟩
    · exact hdrop.put_of_used h'
    · exact List.mem_append_left _ (h.put_of_held hi)
  · exact hdrop.held_inj
  · exact hdrop.not_stored_of_held
  · intro k' a' h'
    rcases hused h' with h' | ⟨rfl, rfl⟩
    · exact hdrop.not_stored_of_used h'
    · exact h.not_stored_of_held hi
  · intro j k' a' a'' h' h''
    rcases hused h' with h' | ⟨rfl, rfl⟩
    · exact hdrop.not_held_of_used h' h''
    · -- `i` was the only holder of the key, and holds nothing now.
      obtain ⟨hj, hheld⟩ := update_none_eq_some.mp h''
      exact hj (h.held_inj hheld hi)
  · rw [List.map_append]
    refine List.nodup_append.mpr ⟨h.used_nodup, List.nodup_singleton _, ?_⟩
    rintro k' hk' k'' hk'' rfl
    obtain ⟨⟨_, a'⟩, hmem, rfl⟩ := List.mem_map.mp hk'
    obtain rfl := List.mem_singleton.mp hk''
    exact h.not_held_of_used hmem hi

/-- **When no key is put twice, every value has one place.** -/
theorem run_once [DecidableEq κ] [DecidableEq ι] {es : List (BoxEvent κ ι α)} {b : Box κ ι α}
    (h : Run step empty es b) (hfresh : (es.filterMap putKey).Nodup) : Once es b := by
  refine h.history_induction (P := fun es b => (es.filterMap putKey).Nodup → Once es b)
    (fun _ => once_empty) ?_ hfresh
  intro es b e b' ih hs hfresh
  rw [List.filterMap_append] at hfresh
  have hb := ih (List.nodup_append.mp hfresh).1
  cases e with
  | put k a =>
      obtain rfl := Option.some.inj hs
      refine hb.put fun hk => ?_
      exact (List.nodup_append.mp hfresh).2.2 k hk k (List.mem_singleton_self k) rfl
  | take i k =>
      simp only [step] at hs
      split at hs
      · next a hk _ =>
          obtain rfl := Option.some.inj hs
          exact hb.take hk
      · cases hs
  | use i =>
      simp only [step] at hs
      split at hs
      · next ka hi =>
          obtain rfl := Option.some.inj hs
          exact hb.use hi
      · cases hs
  | drop i =>
      simp only [step] at hs
      split at hs
      · obtain rfl := Option.some.inj hs
        exact hb.drop i _
      · cases hs

end Box

end Support
