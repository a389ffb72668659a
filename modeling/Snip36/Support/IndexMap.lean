import Mathlib

/-!
# Support — insertion-ordered maps

An `IndexMap κ ν` is a list of entries no two of which have one key.  `insert` overwrites the
value of a key in place and appends a new key, so the entries stand in the order in which their
keys first came; `extend` inserts entries one by one.  Two maps are equivalent (`m ≈ m'`) when
every key reads the same value: this is the equality of maps, whatever their order.

* `get_extend`: a key of `m.extend es` reads the last value `es` gives it, or else `m`'s.
* `get_extend_of_mem`: where the entries of an extension agree on every key, each of them stands;
  `get_fill`: giving a value to the keys that have none keeps what is there.
* `Graph f S m`: `m` is the graph of `f` on `S`.  Extending by a graph on `T` gives the graph on
  `S ∪ T` (`Graph.extend`), and two graphs of one function on one set are equivalent
  (`Graph.equiv`): a map built from any overlapping pieces of one function is that function on
  the union of the pieces.
-/

namespace Support

/-! ### Entry lists -/

section Entries

variable {κ ν : Type*} [DecidableEq κ]

/-- Overwrite the value of `k`, or append the pair. -/
def upsert (k : κ) (v : ν) : List (κ × ν) → List (κ × ν)
  | [] => [(k, v)]
  | e :: es => if e.1 = k then (k, v) :: es else e :: upsert k v es

theorem lookup_cons_if (k : κ) (e : κ × ν) (es : List (κ × ν)) :
    (e :: es).lookup k = if k = e.1 then some e.2 else es.lookup k := by
  rw [List.lookup_cons]
  by_cases h : k = e.1
  · simp [h]
  · rw [beq_eq_false_iff_ne.mpr h, if_neg h]

theorem lookup_upsert (k k' : κ) (v : ν) :
    ∀ es : List (κ × ν), (upsert k v es).lookup k' = if k' = k then some v else es.lookup k'
  | [] => lookup_cons_if k' (k, v) []
  | (k₀, v₀) :: es => by
      by_cases h₀ : k₀ = k
      · subst h₀
        rw [upsert, if_pos rfl, lookup_cons_if, lookup_cons_if]
        by_cases h : k' = k₀ <;> simp [h]
      · rw [upsert, if_neg h₀, lookup_cons_if, lookup_cons_if, lookup_upsert k k' v es]
        by_cases h : k' = k₀
        · subst h; simp [h₀]
        · simp [h]

theorem mem_keys_upsert {k k' : κ} {v : ν} :
    ∀ {es : List (κ × ν)}, k' ∈ (upsert k v es).map Prod.fst ↔ k' = k ∨ k' ∈ es.map Prod.fst
  | [] => by simp [upsert]
  | (k₀, v₀) :: es => by
      by_cases h₀ : k₀ = k
      · subst h₀; simp [upsert]
      · simp only [upsert, h₀, if_false, List.map_cons, List.mem_cons, mem_keys_upsert]
        tauto

theorem nodup_keys_upsert {k : κ} {v : ν} :
    ∀ {es : List (κ × ν)}, (es.map Prod.fst).Nodup → ((upsert k v es).map Prod.fst).Nodup
  | [], _ => by simp [upsert]
  | (k₀, v₀) :: es, h => by
      obtain ⟨hk₀, hes⟩ := List.nodup_cons.mp h
      by_cases h₀ : k₀ = k
      · subst h₀; simpa [upsert] using h
      · simp only [upsert, h₀, if_false, List.map_cons, List.nodup_cons]
        exact ⟨fun hk => (mem_keys_upsert.mp hk).elim h₀ hk₀, nodup_keys_upsert hes⟩

/-- A new key goes to the end. -/
theorem upsert_of_not_mem {k : κ} {v : ν} :
    ∀ {es : List (κ × ν)}, k ∉ es.map Prod.fst → upsert k v es = es ++ [(k, v)]
  | [], _ => rfl
  | (k₀, v₀) :: es, h => by
      obtain ⟨h₀, hes⟩ := not_or.mp (mt List.mem_cons.mpr h)
      rw [upsert, if_neg (Ne.symm h₀), upsert_of_not_mem hes, List.cons_append]

/-- An entry of a list with distinct keys is the one its key reads. -/
theorem lookup_eq_some_iff_mem {k : κ} {v : ν} :
    ∀ {es : List (κ × ν)}, (es.map Prod.fst).Nodup → (es.lookup k = some v ↔ (k, v) ∈ es)
  | [], _ => by simp
  | (k₀, v₀) :: es, h => by
      obtain ⟨hk₀, hes⟩ := List.nodup_cons.mp h
      by_cases e : k = k₀
      · subst e
        have hno : (k, v) ∉ es := fun hm => hk₀ (List.mem_map.mpr ⟨(k, v), hm, rfl⟩)
        simp [lookup_cons_if, hno, eq_comm]
      · simp [lookup_cons_if, e, lookup_eq_some_iff_mem hes]

end Entries

/-! ### Maps -/

/-- A map that keeps the order in which its keys were first inserted. -/
structure IndexMap (κ ν : Type*) where
  entries : List (κ × ν)
  nodupKeys : (entries.map Prod.fst).Nodup

namespace IndexMap

variable {κ ν : Type*}

theorem ext {m m' : IndexMap κ ν} (h : m.entries = m'.entries) : m = m' := by
  cases m; cases m'; cases h; rfl

instance [DecidableEq κ] [DecidableEq ν] : DecidableEq (IndexMap κ ν) := fun m m' =>
  decidable_of_iff (m.entries = m'.entries) ⟨ext, fun h => h ▸ rfl⟩

/-- The empty map. -/
def empty : IndexMap κ ν := ⟨[], List.nodup_nil⟩

instance : Inhabited (IndexMap κ ν) := ⟨empty⟩

/-- The keys, in order. -/
def keys (m : IndexMap κ ν) : List κ := m.entries.map Prod.fst

@[simp] theorem entries_empty : (empty : IndexMap κ ν).entries = [] := rfl

variable [DecidableEq κ]

/-- The value of a key. -/
def get (m : IndexMap κ ν) (k : κ) : Option ν := m.entries.lookup k

/-- Overwrite a key's value in place, or append a new key. -/
def insert (m : IndexMap κ ν) (k : κ) (v : ν) : IndexMap κ ν :=
  ⟨upsert k v m.entries, nodup_keys_upsert m.nodupKeys⟩

/-- Insert entries one by one. -/
def extend (m : IndexMap κ ν) (es : List (κ × ν)) : IndexMap κ ν :=
  es.foldl (fun m e => m.insert e.1 e.2) m

/-- Insert a key that is not there yet. -/
def insertIfAbsent (m : IndexMap κ ν) (k : κ) (v : ν) : IndexMap κ ν :=
  if (m.get k).isSome then m else m.insert k v

/-- Collect entries; the last of a key stands. -/
def ofList (es : List (κ × ν)) : IndexMap κ ν := empty.extend es

/-- Two maps are the same map when every key reads the same value. -/
instance : Setoid (IndexMap κ ν) where
  r m m' := ∀ k, m.get k = m'.get k
  iseqv := ⟨fun _ _ => rfl, fun h k => (h k).symm, fun h h' k => (h k).trans (h' k)⟩

@[simp] theorem get_empty (k : κ) : (empty : IndexMap κ ν).get k = none := rfl

@[simp] theorem get_insert (m : IndexMap κ ν) (k k' : κ) (v : ν) :
    (m.insert k v).get k' = if k' = k then some v else m.get k' :=
  lookup_upsert k k' v m.entries

theorem get_eq_some_iff {m : IndexMap κ ν} {k : κ} {v : ν} :
    m.get k = some v ↔ (k, v) ∈ m.entries :=
  lookup_eq_some_iff_mem m.nodupKeys

theorem mem_keys_iff {m : IndexMap κ ν} {k : κ} : k ∈ m.keys ↔ ∃ v, m.get k = some v := by
  simp [keys, get_eq_some_iff]

@[simp] theorem extend_nil (m : IndexMap κ ν) : m.extend [] = m := rfl

@[simp] theorem extend_cons (m : IndexMap κ ν) (e : κ × ν) (es : List (κ × ν)) :
    m.extend (e :: es) = (m.insert e.1 e.2).extend es := rfl

/-- After an extension a key reads its last new value, or else its old one. -/
theorem get_extend (k : κ) :
    ∀ (es : List (κ × ν)) (m : IndexMap κ ν),
      (m.extend es).get k = (es.reverse.lookup k).or (m.get k)
  | [], _ => by simp
  | (k₀, v₀) :: es, m => by
      rw [extend_cons, get_extend k es, get_insert, List.reverse_cons, List.lookup_append,
        lookup_cons_if, List.lookup_nil, Option.or_assoc]
      by_cases h : k = k₀ <;> simp [h]

/-- Extension by a map's own entries. -/
theorem get_extend_entries (m m' : IndexMap κ ν) (k : κ) :
    (m.extend m'.entries).get k = (m'.get k).or (m.get k) := by
  have hrev : (m'.entries.reverse.map Prod.fst).Nodup := by
    rw [List.map_reverse]; exact List.nodup_reverse.mpr m'.nodupKeys
  have hlook : m'.entries.reverse.lookup k = m'.get k := by
    refine Option.ext fun v => ?_
    rw [lookup_eq_some_iff_mem hrev, List.mem_reverse, get_eq_some_iff]
  rw [get_extend, hlook]

/-- New keys are appended, in order. -/
theorem entries_extend_of_disjoint :
    ∀ (es : List (κ × ν)) (m : IndexMap κ ν), ((m.entries ++ es).map Prod.fst).Nodup →
      (m.extend es).entries = m.entries ++ es
  | [], m, _ => by simp
  | (k, v) :: es, m, h => by
      have hk : k ∉ m.entries.map Prod.fst := by
        intro hm
        rw [List.map_append] at h
        exact (List.disjoint_of_nodup_append h) hm (by simp)
      have hins : (m.insert k v).entries = m.entries ++ [(k, v)] := upsert_of_not_mem hk
      rw [extend_cons, entries_extend_of_disjoint es, hins, List.append_assoc,
        List.singleton_append]
      rwa [hins, List.append_assoc, List.singleton_append]

/-- Collecting entries with distinct keys keeps them as they are. -/
theorem entries_ofList {es : List (κ × ν)} (h : (es.map Prod.fst).Nodup) :
    (ofList es).entries = es := by
  simpa [ofList] using entries_extend_of_disjoint es empty (by simpa using h)

/-- Collecting a map's entries gives the map. -/
theorem ofList_entries (m : IndexMap κ ν) : ofList m.entries = m :=
  ext (entries_ofList m.nodupKeys)

theorem get_ofList_iff {es : List (κ × ν)} (h : (es.map Prod.fst).Nodup) {k : κ} {v : ν} :
    (ofList es).get k = some v ↔ (k, v) ∈ es := by
  rw [get_eq_some_iff, entries_ofList h]

/-- What a key reads is the last value collected for it. -/
theorem exists_last_of_get_ofList {es : List (κ × ν)} {k : κ} {v : ν}
    (h : (ofList es).get k = some v) :
    ∃ before after, es = before ++ (k, v) :: after ∧ ∀ e ∈ after, e.1 ≠ k := by
  rw [ofList, get_extend, get_empty, Option.or_none] at h
  obtain ⟨after, before, hl, hafter⟩ := List.lookup_eq_some_iff.mp h
  refine ⟨before.reverse, after.reverse, ?_, fun e he => ?_⟩
  · rw [← List.reverse_reverse es, hl]
    simp
  · exact (bne_iff_ne.mp (hafter e (List.mem_reverse.mp he))).symm

theorem mem_of_get_ofList {es : List (κ × ν)} {k : κ} {v : ν} (h : (ofList es).get k = some v) :
    (k, v) ∈ es := by
  obtain ⟨before, after, rfl, -⟩ := exists_last_of_get_ofList h
  simp

/-- A key that is collected reads a value. -/
theorem exists_get_ofList {es : List (κ × ν)} {k : κ} (h : k ∈ es.map Prod.fst) :
    ∃ v, (ofList es).get k = some v := by
  rw [ofList, get_extend, get_empty, Option.or_none]
  cases hlook : es.reverse.lookup k with
  | none =>
      obtain ⟨e, he, rfl⟩ := List.mem_map.mp h
      have hne := List.lookup_eq_none_iff.mp hlook e (List.mem_reverse.mpr he)
      exact absurd rfl (bne_iff_ne.mp hne)
  | some v => exact ⟨v, rfl⟩

/-- The keys are those that are collected. -/
theorem mem_keys_ofList {es : List (κ × ν)} {k : κ} :
    k ∈ (ofList es).keys ↔ k ∈ es.map Prod.fst := by
  rw [mem_keys_iff]
  constructor
  · rintro ⟨v, hv⟩
    exact List.mem_map.mpr ⟨(k, v), mem_of_get_ofList hv, rfl⟩
  · exact exists_get_ofList

/-! ### Consistent extensions and filling -/

theorem get_extend_of_not_mem {m : IndexMap κ ν} {es : List (κ × ν)} {k : κ}
    (h : ∀ e ∈ es, e.1 ≠ k) : (m.extend es).get k = m.get k := by
  have hnone : es.reverse.lookup k = none := by
    rw [List.lookup_eq_none_iff]
    intro e he
    exact bne_iff_ne.mpr (h e (List.mem_reverse.mp he)).symm
  rw [get_extend, hnone, Option.none_or]

/-- Where the entries agree on the value of every key, each of them stands. -/
theorem get_extend_of_mem {m : IndexMap κ ν} {es : List (κ × ν)}
    (hone : ∀ e ∈ es, ∀ e' ∈ es, e.1 = e'.1 → e.2 = e'.2) {e : κ × ν} (he : e ∈ es) :
    (m.extend es).get e.1 = some e.2 := by
  cases hlook : es.reverse.lookup e.1 with
  | none =>
      have h := (List.lookup_eq_none_iff.mp hlook) e (List.mem_reverse.mpr he)
      exact absurd rfl (bne_iff_ne.mp h)
  | some v =>
      obtain ⟨l₁, l₂, hl, -⟩ := List.lookup_eq_some_iff.mp hlook
      have hv : (e.1, v) ∈ es := List.mem_reverse.mp (by rw [hl]; simp)
      have hval : v = e.2 := hone (e.1, v) hv e he rfl
      rw [get_extend, hlook, Option.some_or, hval]

theorem get_insertIfAbsent (m : IndexMap κ ν) (k k' : κ) (v : ν) :
    (m.insertIfAbsent k v).get k' = (m.get k').or (if k' = k then some v else none) := by
  rw [insertIfAbsent]
  by_cases h : k' = k
  · subst h
    cases hm : m.get k' <;> simp [hm]
  · by_cases hk : (m.get k).isSome <;> simp [h, hk]

/-- Give a value to the keys that have none. -/
def fill (m : IndexMap κ ν) (ks : List κ) (v : ν) : IndexMap κ ν :=
  ks.foldl (fun m k => m.insertIfAbsent k v) m

theorem fill_append (m : IndexMap κ ν) (ks ks' : List κ) (v : ν) :
    m.fill (ks ++ ks') v = (m.fill ks v).fill ks' v :=
  List.foldl_append

/-- Filling keeps what is there. -/
theorem get_fill (k : κ) (v : ν) :
    ∀ (ks : List κ) (m : IndexMap κ ν),
      (m.fill ks v).get k = (m.get k).or (if k ∈ ks then some v else none)
  | [], m => by simp [fill]
  | k₀ :: ks, m => by
      change ((m.insertIfAbsent k₀ v).fill ks v).get k = _
      rw [get_fill k v ks, get_insertIfAbsent, Option.or_assoc]
      by_cases h₀ : k = k₀ <;> by_cases h : k ∈ ks <;> simp [h₀, h]

/-! ### Graphs of a function -/

/-- `m` is the graph of `f` on `S`. -/
def Graph (f : κ → ν) (S : Set κ) (m : IndexMap κ ν) : Prop :=
  ∀ k v, m.get k = some v ↔ k ∈ S ∧ v = f k

theorem Graph.empty (f : κ → ν) : Graph f ∅ (empty : IndexMap κ ν) := by
  simp [Graph]

theorem Graph.congr {f : κ → ν} {S T : Set κ} {m : IndexMap κ ν} (h : Graph f S m)
    (e : ∀ k, k ∈ S ↔ k ∈ T) : Graph f T m :=
  (Set.ext e : S = T) ▸ h

/-- Extending a graph of `f` by a graph of `f` gives the graph on the union. -/
theorem Graph.extend {f : κ → ν} {S T : Set κ} {m m' : IndexMap κ ν} (h : Graph f S m)
    (h' : Graph f T m') : Graph f (S ∪ T) (m.extend m'.entries) := by
  intro k v
  rw [get_extend_entries, Option.or_eq_some_iff, h k v, h' k v]
  constructor
  · rintro (⟨hT, rfl⟩ | ⟨-, hS, rfl⟩)
    · exact ⟨.inr hT, rfl⟩
    · exact ⟨.inl hS, rfl⟩
  · rintro ⟨hST, rfl⟩
    by_cases hT : k ∈ T
    · exact .inl ⟨hT, rfl⟩
    · refine .inr ⟨Option.eq_none_iff_forall_ne_some.mpr fun w hw => ?_,
        hST.resolve_right hT, rfl⟩
      exact hT ((h' k w).mp hw).1

theorem Graph.insert {f : κ → ν} {S : Set κ} {m : IndexMap κ ν} (h : Graph f S m) (k : κ) :
    Graph f (S ∪ {k}) (m.insert k (f k)) := by
  intro k' v
  rw [get_insert, Set.mem_union, Set.mem_singleton_iff]
  by_cases e : k' = k
  · subst e; simp [eq_comm]
  · rw [if_neg e, h k' v]; simp [e]

/-- Extending a graph of `f` by the pairs of `f` at some keys. -/
theorem Graph.extend_map {f : κ → ν} :
    ∀ (ks : List κ) {S : Set κ} {m : IndexMap κ ν}, Graph f S m →
      Graph f (S ∪ {k | k ∈ ks}) (m.extend (ks.map fun k => (k, f k)))
  | [], _, _, h => h.congr (by simp)
  | k :: ks, S, m, h => by
      refine (Graph.extend_map ks (h.insert k)).congr fun k' => ?_
      simp only [Set.mem_union, Set.mem_singleton_iff, Set.mem_ofPred_eq, List.mem_cons, or_assoc]

/-- One function has one graph on a set. -/
theorem Graph.equiv {f : κ → ν} {S : Set κ} {m m' : IndexMap κ ν} (h : Graph f S m)
    (h' : Graph f S m') : m ≈ m' := by
  intro k
  refine Option.ext fun v => ?_
  rw [h k v, h' k v]

/-- A run of extensions by graphs of `f` is the graph on the union of their sets. -/
theorem Graph.foldl {α : Type*} {f : κ → ν} (g : α → IndexMap κ ν) (S : α → Set κ) :
    ∀ (as : List α) {T : Set κ} {m : IndexMap κ ν}, Graph f T m →
      (∀ a ∈ as, Graph f (S a) (g a)) →
      Graph f (T ∪ {k | ∃ a ∈ as, k ∈ S a}) (as.foldl (fun m a => m.extend (g a).entries) m)
  | [], _, _, h, _ => h.congr (by simp)
  | a :: as, T, m, h, hg => by
      have hstep := h.extend (hg a (by simp))
      refine (Graph.foldl g S as hstep fun b hb => hg b (by simp [hb])).congr fun k => ?_
      simp only [Set.mem_union, Set.mem_ofPred_eq, List.mem_cons, exists_eq_or_imp, or_assoc]

end IndexMap

end Support
