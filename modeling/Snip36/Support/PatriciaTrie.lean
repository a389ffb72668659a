import Mathlib

/-!
# Support — Patricia tries and partial stores of their nodes

A trie of height `n` maps keys of `n` bits to the hashes of leaves.  Its nodes are known by their
hashes: a binary node has a child for each bit, an edge skips a path that all the keys below it
share.  `walk read key hash` looks a key up from a root through a store of nodes (`read`), and
`nodesOn t key` are the nodes of `t` that such a walk visits.

`walk_eq_lookup`: a store that has the nodes on a key's way, whatever else it has or lacks, gives
the key what the trie gives it.
-/

namespace Support

/-- A node of a trie, over the hashes of its children. -/
inductive TrieNode (η : Type*) where
  | binary (left right : η)
  | edge (path : List Bool) (bottom : η)

namespace TrieNode

variable {η : Type*}

/-- The child on the way of a key, and what is left of the key there. -/
def descend : TrieNode η → List Bool → Option (η × List Bool)
  | binary left right, bit :: key => some (bif bit then right else left, key)
  | binary _ _, [] => none
  | edge path bottom, key =>
      if path <+: key then some (bottom, key.drop path.length) else none

end TrieNode

/-- A trie of height `n`, every node of which is given with its hash. -/
inductive Trie (η : Type*) : ℕ → Type _ where
  | leaf (hash : η) : Trie η 0
  | binary {n : ℕ} (hash : η) (left right : Trie η n) : Trie η (n + 1)
  | edge {m n : ℕ} (hash : η) (path : List Bool) (path_ne_nil : path ≠ [])
      (height : path.length + m = n) (bottom : Trie η m) : Trie η n

namespace Trie

variable {η : Type*}

/-- The hash of the topmost node. -/
def root : {n : ℕ} → Trie η n → η
  | _, leaf hash | _, binary hash _ _ | _, edge hash _ _ _ _ => hash

/-- The hash of a key's leaf, if the trie has the key. -/
def lookup : {n : ℕ} → Trie η n → List Bool → Option η
  | _, leaf hash, _ => some hash
  | _, binary _ _ _, [] => none
  | _, binary _ left right, bit :: key => bif bit then right.lookup key else left.lookup key
  | _, edge _ path _ _ bottom, key =>
      if path <+: key then bottom.lookup (key.drop path.length) else none

/-- The nodes on the way of a key, with their hashes: down to its leaf, or to the edge that
leaves its way. -/
def nodesOn : {n : ℕ} → Trie η n → List Bool → List (η × TrieNode η)
  | _, leaf _, _ => []
  | _, binary _ _ _, [] => []
  | _, binary hash left right, bit :: key =>
      (hash, .binary left.root right.root)
        :: bif bit then right.nodesOn key else left.nodesOn key
  | _, edge hash path _ _ bottom, key =>
      (hash, .edge path bottom.root)
        :: if path <+: key then bottom.nodesOn (key.drop path.length) else []

/-- A trie has no edge longer than itself. -/
theorem length_le_of_edge_mem_nodesOn {n : ℕ} {t : Trie η n} {key : List Bool} {hash : η}
    {path : List Bool} {bottom : η} (h : (hash, TrieNode.edge path bottom) ∈ t.nodesOn key) :
    path.length ≤ n := by
  induction t generalizing key with
  | leaf _ => exact absurd h List.not_mem_nil
  | binary _ left right ihl ihr =>
      cases key with
      | nil => exact absurd h List.not_mem_nil
      | cons bit key =>
          rcases List.mem_cons.mp h with h | h
          · exact absurd (congrArg Prod.snd h) (by simp)
          · cases bit with
            | false => exact (ihl h).trans (Nat.le_succ _)
            | true => exact (ihr h).trans (Nat.le_succ _)
  | edge _ path' _ height _ ih =>
      rcases List.mem_cons.mp h with h | h
      · obtain ⟨rfl, -⟩ := TrieNode.edge.inj (congrArg Prod.snd h)
        omega
      · by_cases hpre : path' <+: key
        · rw [if_pos hpre] at h
          have hle := ih h
          omega
        · rw [if_neg hpre] at h
          exact absurd h List.not_mem_nil

/-- Look a key up in a store of nodes, from the hash of a root. -/
def walk (read : η → Option (TrieNode η)) (key : List Bool) (hash : η) : Option η :=
  if key = [] then some hash
  else
    match read hash with
    | none => none
    | some node =>
        match node.descend key with
        | none => none
        | some (child, rest) =>
            if rest.length < key.length then walk read rest child else none
termination_by key.length

section Walk

variable {read : η → Option (TrieNode η)} {key rest : List Bool} {hash child : η}
  {node : TrieNode η}

@[simp] theorem walk_nil (read : η → Option (TrieNode η)) (hash : η) :
    walk read [] hash = some hash := by
  rw [walk, if_pos rfl]

/-- A walk goes on from a child that takes some of the key. -/
theorem walk_of_descend (hread : read hash = some node)
    (hdown : node.descend key = some (child, rest)) (hlt : rest.length < key.length) :
    walk read key hash = walk read rest child := by
  have hkey : key ≠ [] := by
    rintro rfl
    exact absurd hlt (Nat.not_lt_zero _)
  rw [walk, if_neg hkey, hread]
  simp only [hdown]
  rw [if_pos hlt]

/-- A walk ends where the node is not on the key's way. -/
theorem walk_of_descend_none (hkey : key ≠ []) (hread : read hash = some node)
    (hdown : node.descend key = none) : walk read key hash = none := by
  rw [walk, if_neg hkey, hread]
  simp only [hdown]

/-- **A store with the nodes on a key's way looks the key up.** -/
theorem walk_eq_lookup {n : ℕ} (t : Trie η n) :
    ∀ {key : List Bool}, key.length = n → (∀ e ∈ t.nodesOn key, read e.1 = some e.2) →
      walk read key t.root = t.lookup key := by
  induction t with
  | leaf hash =>
      intro key hlen _
      obtain rfl := List.length_eq_zero_iff.mp hlen
      exact walk_nil read hash
  | binary hash left right ihl ihr =>
      intro key hlen hread
      cases key with
      | nil => exact absurd hlen (Nat.succ_ne_zero _).symm
      | cons bit key =>
          have hlen' := Nat.succ.inj hlen
          have hhere : read hash = some (.binary left.root right.root) :=
            hread (hash, _) List.mem_cons_self
          have hbelow : ∀ e ∈ (bif bit then right.nodesOn key else left.nodesOn key),
              read e.1 = some e.2 := fun e he => hread e (List.mem_cons_of_mem _ he)
          have hstep : walk read (bit :: key) hash
              = walk read key (bif bit then right.root else left.root) :=
            walk_of_descend hhere rfl (Nat.lt_succ_self _)
          cases bit with
          | false => exact hstep.trans (ihl hlen' hbelow)
          | true => exact hstep.trans (ihr hlen' hbelow)
  | edge hash path hne height bottom ih =>
      intro key hlen hread
      have hpos : 0 < path.length := List.length_pos_iff.mpr hne
      have hkey : key ≠ [] := by
        rintro rfl
        rw [List.length_nil] at hlen
        omega
      have hhere : read hash = some (.edge path bottom.root) :=
        hread (hash, _) List.mem_cons_self
      by_cases hpre : path <+: key
      · have hdown : (TrieNode.edge path bottom.root).descend key
            = some (bottom.root, key.drop path.length) := if_pos hpre
        have hlen' := (List.length_drop (i := path.length) (l := key)).trans
          (Nat.sub_eq_of_eq_add' (hlen.trans height.symm))
        have hbelow : ∀ e ∈ bottom.nodesOn (key.drop path.length), read e.1 = some e.2 := by
          intro e he
          refine hread e (List.mem_cons_of_mem _ ?_)
          rwa [if_pos hpre]
        rw [root, walk_of_descend hhere hdown (by rw [List.length_drop]; omega),
          ih hlen' hbelow, lookup, if_pos hpre]
      · have hdown : (TrieNode.edge path bottom.root).descend key = none := if_neg hpre
        rw [root, walk_of_descend_none hkey hhere hdown, lookup, if_neg hpre]

end Walk

end Trie

/-! ### Bits of numbers -/

/-- Bits as a number, the highest first. -/
def bitsNat (bits : List Bool) : ℕ := bits.foldl (fun n bit => 2 * n + bit.toNat) 0

/-- The `k` lowest bits of a number, the highest first. -/
def lowBits : ℕ → ℕ → List Bool
  | 0, _ => []
  | k + 1, n => lowBits k (n / 2) ++ [decide (n % 2 = 1)]

theorem length_lowBits (k n : ℕ) : (lowBits k n).length = k := by
  induction k generalizing n with
  | zero => rfl
  | succ k ih => rw [lowBits, List.length_append, ih, List.length_singleton]

theorem bitsNat_append_singleton (bits : List Bool) (bit : Bool) :
    bitsNat (bits ++ [bit]) = 2 * bitsNat bits + bit.toNat := by
  rw [bitsNat, List.foldl_append]
  rfl

theorem bitsNat_lt (bits : List Bool) : bitsNat bits < 2 ^ bits.length := by
  induction bits using List.reverseRecOn with
  | nil => exact Nat.one_pos
  | append_singleton bits bit ih =>
      have hbit : bit.toNat < 2 := Bool.toNat_lt bit
      rw [bitsNat_append_singleton, List.length_append, List.length_singleton, pow_succ]
      omega

/-- Bits are read back from their number. -/
theorem lowBits_bitsNat (bits : List Bool) : lowBits bits.length (bitsNat bits) = bits := by
  induction bits using List.reverseRecOn with
  | nil => rfl
  | append_singleton bits bit ih =>
      have hbit : bit.toNat < 2 := Bool.toNat_lt bit
      have hdiv : (2 * bitsNat bits + bit.toNat) / 2 = bitsNat bits := by omega
      have hmod : (2 * bitsNat bits + bit.toNat) % 2 = bit.toNat := by omega
      rw [List.length_append, List.length_singleton, lowBits, bitsNat_append_singleton, hdiv,
        hmod, ih]
      cases bit <;> rfl

end Support
