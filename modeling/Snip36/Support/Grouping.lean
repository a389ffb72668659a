import Snip36.Support.IndexMap

/-!
# Support — maps of maps

A map over pairs may be kept as a map from first components to maps over second components.
`Grouping m g`: `g` holds the entries of `m` and nothing else, each under its first component,
and no group is empty.  The entries of a grouping put together are the map's (`Grouping.perm`),
so what holds of every entry holds of every entry of every group (`Grouping.forall_iff`).

`group` inserts the entries of a map one by one into their groups, and gives a grouping
(`grouping_group`).
-/

namespace Support

variable {α β ν : Type*} [DecidableEq α] [DecidableEq β]

/-- The entries of the groups, with their pairs. -/
def ungroup (g : IndexMap α (IndexMap β ν)) : List ((α × β) × ν) :=
  g.entries.flatMap fun e => e.2.entries.map fun u => ((e.1, u.1), u.2)

/-- `g` holds the entries of `m`, each under its first component. -/
structure Grouping (m : IndexMap (α × β) ν) (g : IndexMap α (IndexMap β ν)) : Prop where
  get_iff : ∀ a b v, (∃ u, g.get a = some u ∧ u.get b = some v) ↔ m.get (a, b) = some v
  ne_empty : ∀ e ∈ g.entries, e.2.entries ≠ []

omit [DecidableEq α] [DecidableEq β] in
theorem mem_ungroup {g : IndexMap α (IndexMap β ν)} {a : α} {b : β} {v : ν} :
    ((a, b), v) ∈ ungroup g ↔ ∃ u, (a, u) ∈ g.entries ∧ (b, v) ∈ u.entries := by
  rw [ungroup, List.mem_flatMap]
  constructor
  · rintro ⟨⟨a', u⟩, he, hmem⟩
    obtain ⟨⟨b', v'⟩, hu, heq⟩ := List.mem_map.mp hmem
    obtain ⟨hab, rfl⟩ := Prod.mk.inj heq
    obtain ⟨rfl, rfl⟩ := Prod.mk.inj hab
    exact ⟨u, he, hu⟩
  · rintro ⟨u, he, hu⟩
    exact ⟨(a, u), he, List.mem_map.mpr ⟨(b, v), hu, rfl⟩⟩

omit [DecidableEq α] [DecidableEq β] in
theorem nodup_ungroup (g : IndexMap α (IndexMap β ν)) : (ungroup g).Nodup := by
  refine List.nodup_flatMap.mpr ⟨fun e _ => ?_, ?_⟩
  · refine (List.Nodup.of_map Prod.fst e.2.nodupKeys).map fun u u' h => ?_
    obtain ⟨hab, hv⟩ := Prod.mk.inj h
    exact Prod.ext (Prod.mk.inj hab).2 hv
  · refine (List.pairwise_map.mp g.nodupKeys).imp fun {e e'} hne x hx hx' => hne ?_
    obtain ⟨_, -, rfl⟩ := List.mem_map.mp hx
    obtain ⟨_, -, heq⟩ := List.mem_map.mp hx'
    exact (Prod.mk.inj (Prod.mk.inj heq).1).1.symm

namespace Grouping

variable {m : IndexMap (α × β) ν} {g : IndexMap α (IndexMap β ν)}

/-- **A grouping loses nothing and adds nothing.** -/
theorem perm (h : Grouping m g) : (ungroup g).Perm m.entries := by
  have hnd : m.entries.Nodup := List.Nodup.of_map Prod.fst m.nodupKeys
  refine (List.perm_ext_iff_of_nodup (nodup_ungroup g) hnd).mpr ?_
  rintro ⟨⟨a, b⟩, v⟩
  rw [mem_ungroup, ← IndexMap.get_eq_some_iff, ← h.get_iff]
  exact exists_congr fun u => and_congr IndexMap.get_eq_some_iff.symm
    IndexMap.get_eq_some_iff.symm

/-- What holds of the values of the groups holds of the values of the map. -/
theorem forall_iff (h : Grouping m g) (p : ν → Prop) :
    (∀ e ∈ g.entries, ∀ u ∈ e.2.entries, p u.2) ↔ ∀ e ∈ m.entries, p e.2 := by
  have hmem : ∀ e : (α × β) × ν, e ∈ m.entries ↔ e ∈ ungroup g := fun e => h.perm.mem_iff.symm
  constructor
  · rintro hg ⟨⟨a, b⟩, v⟩ he
    obtain ⟨u, hu, hbv⟩ := mem_ungroup.mp ((hmem _).mp he)
    exact hg (a, u) hu (b, v) hbv
  · intro hm e he u hu
    exact hm ((e.1, u.1), u.2) ((hmem _).mpr (mem_ungroup.mpr ⟨e.2, he, hu⟩))

end Grouping

/-! ### Grouping by insertion -/

/-- Insert an entry into its group. -/
def insertInGroup (g : IndexMap α (IndexMap β ν)) (e : (α × β) × ν) : IndexMap α (IndexMap β ν) :=
  g.insert e.1.1 (((g.get e.1.1).getD .empty).insert e.1.2 e.2)

/-- Group the entries of a map by their first components. -/
def group (m : IndexMap (α × β) ν) : IndexMap α (IndexMap β ν) :=
  m.entries.foldl insertInGroup .empty

/-- The value of a pair in its group. -/
def getInGroup (g : IndexMap α (IndexMap β ν)) (p : α × β) : Option ν :=
  (g.get p.1).bind (·.get p.2)

theorem getInGroup_insertInGroup (g : IndexMap α (IndexMap β ν)) (e : (α × β) × ν) (p : α × β) :
    getInGroup (insertInGroup g e) p = if p = e.1 then some e.2 else getInGroup g p := by
  rw [getInGroup, insertInGroup, IndexMap.get_insert, getInGroup]
  by_cases ha : p.1 = e.1.1
  · by_cases hb : p.2 = e.1.2
    · rw [if_pos ha, if_pos (Prod.ext ha hb), Option.bind_some, IndexMap.get_insert, if_pos hb]
    · have hne : p ≠ e.1 := fun h => hb (congrArg Prod.snd h)
      rw [if_pos ha, if_neg hne, Option.bind_some, IndexMap.get_insert, if_neg hb, ha]
      cases g.get e.1.1 <;> simp
  · have hne : p ≠ e.1 := fun h => ha (congrArg Prod.fst h)
    rw [if_neg ha, if_neg hne]

/-- Groups and a map that read alike still do when both are given the same entries. -/
theorem getInGroup_foldl :
    ∀ (es : List ((α × β) × ν)) {m : IndexMap (α × β) ν} {g : IndexMap α (IndexMap β ν)},
      (∀ p, getInGroup g p = m.get p) →
      ∀ p, getInGroup (es.foldl insertInGroup g) p = (m.extend es).get p
  | [], _, _, h => h
  | e :: es, m, g, h => by
      refine getInGroup_foldl es (m := m.insert e.1 e.2) (g := insertInGroup g e) fun p => ?_
      rw [getInGroup_insertInGroup, IndexMap.get_insert, h p]

/-- Every pair reads in its group what it reads in the map. -/
theorem getInGroup_group (m : IndexMap (α × β) ν) (p : α × β) :
    getInGroup (group m) p = m.get p := by
  have h : getInGroup (group m) p = (IndexMap.empty.extend m.entries).get p :=
    getInGroup_foldl m.entries (fun _ => rfl) p
  rw [h]
  exact congrArg (IndexMap.get · p) (IndexMap.ofList_entries m)

theorem mem_entries_insert {κ μ : Type*} [DecidableEq κ] {m : IndexMap κ μ} {k : κ} {v : μ}
    {e : κ × μ} (h : e ∈ (m.insert k v).entries) : e = (k, v) ∨ e ∈ m.entries := by
  have hget := IndexMap.get_eq_some_iff.mpr h
  rw [IndexMap.get_insert] at hget
  by_cases hk : e.1 = k
  · rw [if_pos hk] at hget
    exact .inl (Prod.ext hk (Option.some.inj hget).symm)
  · rw [if_neg hk] at hget
    exact .inr (IndexMap.get_eq_some_iff.mp hget)

/-- A group that got an entry is not empty. -/
theorem ne_empty_foldl :
    ∀ (es : List ((α × β) × ν)) (g : IndexMap α (IndexMap β ν)),
      (∀ e ∈ g.entries, e.2.entries ≠ []) →
      ∀ e ∈ (es.foldl insertInGroup g).entries, e.2.entries ≠ []
  | [], _, h => h
  | e₀ :: es, g, h => by
      refine ne_empty_foldl es (insertInGroup g e₀) fun e he => ?_
      rcases mem_entries_insert he with rfl | he
      · intro hnil
        have hmem : (e₀.1.2, e₀.2)
            ∈ (((g.get e₀.1.1).getD .empty).insert e₀.1.2 e₀.2).entries := by
          rw [← IndexMap.get_eq_some_iff, IndexMap.get_insert, if_pos rfl]
        rw [hnil] at hmem
        cases hmem
      · exact h e he

/-- **Inserting the entries into their groups gives a grouping.** -/
theorem grouping_group (m : IndexMap (α × β) ν) : Grouping m (group m) where
  get_iff a b v := by
    rw [← getInGroup_group m (a, b), getInGroup, Option.bind_eq_some_iff]
  ne_empty := ne_empty_foldl m.entries .empty (by simp)

end Support
