import Snip36.Felt
import Snip36.Support.Chunks
import Snip36.Support.Fallible

/-!
# Storage proofs — queries and their chunks

`storage_proofs.rs` asks a node for Patricia proofs of class hashes, contract addresses and
storage keys.  A node refuses a request of more than `MAX_KEYS_PER_REQUEST` keys, so a large
query is flattened into one list of keys (`flattenQuery`), cut into chunks, and every chunk is
collected into a query again (`splitQuery`).

Neither step loses a key or moves one to another contract: `flattenQuery` and `collectQuery` keep
the class hashes, the contract addresses and the pairs of a contract and a key, each kind in its
order (`flattenQuery_spec`, `collectQuery_spec`), so the chunks together hold the keys of the
query (`flatMap_chunkQueries`).  What is lost is an entry with no keys.
-/

namespace Snip36.StorageProofs
open Support

/-! ### Queries -/

/-- `ContractStorageKeys`. -/
structure ContractStorageKeys where
  contractAddress : Felt
  storageKeys : List Felt
  deriving DecidableEq

/-- `RpcStorageProofsQuery`. -/
structure RpcStorageProofsQuery where
  classHashes : List Felt
  contractAddresses : List ContractAddress
  contractStorageKeys : List ContractStorageKeys
  deriving DecidableEq

/-- `RpcStorageProofsQuery::default()`. -/
def RpcStorageProofsQuery.empty : RpcStorageProofsQuery := ⟨[], [], []⟩

/-- `MAX_KEYS_PER_REQUEST`, the node's limit. -/
def maxKeysPerRequest : ℕ := 100

/-- `count_total_keys`. -/
def countTotalKeys (query : RpcStorageProofsQuery) : ℕ :=
  query.classHashes.length + query.contractAddresses.length
    + (query.contractStorageKeys.map fun csk => csk.storageKeys.length).sum

/-- `QueryItem`, one key of a flattened query. -/
inductive QueryItem where
  | classHash (h : Felt)
  | contractAddress (a : ContractAddress)
  | storageKey (contractAddress key : Felt)
  deriving DecidableEq

/-- `flatten_query`.  An entry with no keys is dropped. -/
def flattenQuery (query : RpcStorageProofsQuery) : List QueryItem :=
  query.classHashes.map .classHash
    ++ query.contractAddresses.map .contractAddress
    ++ query.contractStorageKeys.flatMap fun contract =>
        contract.storageKeys.map (.storageKey contract.contractAddress)

/-- The loop body of `collect_query` at a storage key: a key of the last entry's contract joins
that entry, any other key opens a new one. -/
def pushStorageKey (entries : List ContractStorageKeys) (contractAddress key : Felt) :
    List ContractStorageKeys :=
  match entries.getLast? with
  | some last =>
      if last.contractAddress = contractAddress then
        entries.dropLast ++ [{ last with storageKeys := last.storageKeys ++ [key] }]
      else entries ++ [⟨contractAddress, [key]⟩]
  | none => entries ++ [⟨contractAddress, [key]⟩]

/-- The loop body of `collect_query`. -/
def collectItem (query : RpcStorageProofsQuery) : QueryItem → RpcStorageProofsQuery
  | .classHash h => { query with classHashes := query.classHashes ++ [h] }
  | .contractAddress a => { query with contractAddresses := query.contractAddresses ++ [a] }
  | .storageKey a k =>
      { query with contractStorageKeys := pushStorageKey query.contractStorageKeys a k }

/-- `collect_query`. -/
def collectQuery (items : List QueryItem) : RpcStorageProofsQuery :=
  items.foldl collectItem .empty

/-- `split_query`. -/
def splitQuery {ε : Type} (query : RpcStorageProofsQuery) (maxKeys : ℕ) :
    Fallible ε (List RpcStorageProofsQuery) := do
  require (0 < maxKeys) "max_keys must be positive"
  pure ((chunks maxKeys (flattenQuery query)).map collectQuery)

/-! ### The three kinds of item -/

/-- The pairs of a contract and a key a list of entries asks for, in order. -/
def storagePairs (entries : List ContractStorageKeys) : List (Felt × Felt) :=
  entries.flatMap fun csk => csk.storageKeys.map (csk.contractAddress, ·)

/-- An item that is a class hash. -/
def QueryItem.asClassHash : QueryItem → Option Felt
  | .classHash h => some h
  | _ => none

/-- An item that is a contract address. -/
def QueryItem.asContractAddress : QueryItem → Option ContractAddress
  | .contractAddress a => some a
  | _ => none

/-- An item that is a storage key, with its contract. -/
def QueryItem.asStoragePair : QueryItem → Option (Felt × Felt)
  | .storageKey a k => some (a, k)
  | _ => none

@[simp] theorem storagePairs_append (es es' : List ContractStorageKeys) :
    storagePairs (es ++ es') = storagePairs es ++ storagePairs es' :=
  List.flatMap_append

/-- Pushing a storage key appends its pair. -/
theorem storagePairs_pushStorageKey (entries : List ContractStorageKeys) (a k : Felt) :
    storagePairs (pushStorageKey entries a k) = storagePairs entries ++ [(a, k)] := by
  rcases List.eq_nil_or_concat entries with rfl | ⟨es, last, rfl⟩
  · rfl
  · by_cases h : last.contractAddress = a
    · simp [pushStorageKey, h, storagePairs]
    · simp [pushStorageKey, h, storagePairs]

/-- Collecting from `query` appends the items of every kind to what `query` holds. -/
theorem foldl_collectItem :
    ∀ (items : List QueryItem) (query : RpcStorageProofsQuery),
      (items.foldl collectItem query).classHashes
          = query.classHashes ++ items.filterMap QueryItem.asClassHash ∧
        (items.foldl collectItem query).contractAddresses
          = query.contractAddresses ++ items.filterMap QueryItem.asContractAddress ∧
        storagePairs (items.foldl collectItem query).contractStorageKeys
          = storagePairs query.contractStorageKeys ++ items.filterMap QueryItem.asStoragePair
  | [], query => by simp
  | item :: items, query => by
      obtain ⟨h₁, h₂, h₃⟩ := foldl_collectItem items (collectItem query item)
      rw [List.foldl_cons, h₁, h₂, h₃]
      cases item with
      | classHash h =>
          exact ⟨by simp [collectItem, QueryItem.asClassHash], rfl, rfl⟩
      | contractAddress a =>
          exact ⟨rfl, by simp [collectItem, QueryItem.asContractAddress], rfl⟩
      | storageKey a k =>
          refine ⟨rfl, rfl, ?_⟩
          simp [collectItem, storagePairs_pushStorageKey,
            QueryItem.asStoragePair]

/-- **Collecting keeps the items of every kind**, in order. -/
theorem collectQuery_spec (items : List QueryItem) :
    (collectQuery items).classHashes = items.filterMap QueryItem.asClassHash ∧
      (collectQuery items).contractAddresses = items.filterMap QueryItem.asContractAddress ∧
      storagePairs (collectQuery items).contractStorageKeys
        = items.filterMap QueryItem.asStoragePair :=
  foldl_collectItem items .empty

/-- Every item is one key of the collected query. -/
theorem countTotalKeys_collectQuery (items : List QueryItem) :
    countTotalKeys (collectQuery items) = items.length := by
  obtain ⟨hc, ha, hs⟩ := collectQuery_spec items
  have hkinds : (items.filterMap QueryItem.asClassHash).length
      + (items.filterMap QueryItem.asContractAddress).length
      + (items.filterMap QueryItem.asStoragePair).length = items.length := by
    clear hc ha hs
    induction items with
    | nil => rfl
    | cons item items ih =>
        cases item <;>
          simp only [QueryItem.asClassHash, QueryItem.asContractAddress, QueryItem.asStoragePair,
            List.filterMap_cons, List.length_cons] <;> omega
  have hpairs : (storagePairs (collectQuery items).contractStorageKeys).length
      = ((collectQuery items).contractStorageKeys.map fun csk => csk.storageKeys.length).sum := by
    simp [storagePairs, List.length_flatMap]
  rw [countTotalKeys, ← hpairs, hc, ha, hs, hkinds]

/-- Flattening keeps the keys of every kind, in order. -/
theorem flattenQuery_spec (query : RpcStorageProofsQuery) :
    (flattenQuery query).filterMap QueryItem.asClassHash = query.classHashes ∧
      (flattenQuery query).filterMap QueryItem.asContractAddress = query.contractAddresses ∧
      (flattenQuery query).filterMap QueryItem.asStoragePair
        = storagePairs query.contractStorageKeys := by
  refine ⟨?_, ?_, ?_⟩
  · simp [flattenQuery, QueryItem.asClassHash, List.filterMap_append, List.filterMap_map,
      List.filterMap_flatMap, Function.comp_def]
  · simp [flattenQuery, QueryItem.asContractAddress, List.filterMap_append, List.filterMap_map,
      List.filterMap_flatMap, Function.comp_def]
  · simp [flattenQuery, QueryItem.asStoragePair, storagePairs, List.filterMap_append,
      List.filterMap_map, List.filterMap_flatMap, Function.comp_def]

theorem length_flattenQuery (query : RpcStorageProofsQuery) :
    (flattenQuery query).length = countTotalKeys query := by
  simp [flattenQuery, countTotalKeys, List.length_flatMap, Nat.add_assoc]

/-! ### The chunks of a query -/

/-- The queries `splitQuery` returns. -/
def chunkQueries (query : RpcStorageProofsQuery) (maxKeys : ℕ) : List RpcStorageProofsQuery :=
  (chunks maxKeys (flattenQuery query)).map collectQuery

theorem splitQuery_eq {ε : Type} (query : RpcStorageProofsQuery) {maxKeys : ℕ}
    (h : 0 < maxKeys) :
    (splitQuery query maxKeys : Fallible ε _) = .ok (chunkQueries query maxKeys) := by
  rw [splitQuery, require_of h]
  rfl

/-- A chunk is within the limit. -/
theorem countTotalKeys_of_mem_chunkQueries {query chunk : RpcStorageProofsQuery} {maxKeys : ℕ}
    (hchunk : chunk ∈ chunkQueries query maxKeys) : countTotalKeys chunk ≤ maxKeys := by
  obtain ⟨items, hitems, rfl⟩ := List.mem_map.mp hchunk
  rw [countTotalKeys_collectQuery]
  exact length_le_of_mem_chunks hitems

theorem flatMap_filterMap {α β : Type} (f : α → Option β) (xss : List (List α)) :
    (xss.flatMap fun xs => xs.filterMap f) = xss.flatten.filterMap f := by
  induction xss with
  | nil => rfl
  | cons xs xss ih => rw [List.flatMap_cons, List.flatten_cons, List.filterMap_append, ih]

/-- **The chunks hold the keys of the query**, kind by kind and in order. -/
theorem flatMap_chunkQueries (query : RpcStorageProofsQuery) {maxKeys : ℕ} (h : 0 < maxKeys) :
    (chunkQueries query maxKeys).flatMap (·.classHashes) = query.classHashes ∧
      (chunkQueries query maxKeys).flatMap (·.contractAddresses) = query.contractAddresses ∧
      storagePairs ((chunkQueries query maxKeys).flatMap (·.contractStorageKeys))
        = storagePairs query.contractStorageKeys := by
  obtain ⟨hc, ha, hs⟩ := flattenQuery_spec query
  have hflat := flatten_chunks h (flattenQuery query)
  refine ⟨?_, ?_, ?_⟩
  · rw [← hc, ← hflat, ← flatMap_filterMap, chunkQueries, List.flatMap_map]
    exact congrArg (List.flatMap · _) (funext fun items => (collectQuery_spec items).1)
  · rw [← ha, ← hflat, ← flatMap_filterMap, chunkQueries, List.flatMap_map]
    exact congrArg (List.flatMap · _) (funext fun items => (collectQuery_spec items).2.1)
  · rw [← hs, ← hflat, ← flatMap_filterMap, chunkQueries, storagePairs, List.flatMap_assoc,
      List.flatMap_map]
    exact congrArg (List.flatMap · _) (funext fun items => (collectQuery_spec items).2.2)

theorem storageKeys_ne_nil_pushStorageKey {entries : List ContractStorageKeys} {a k : Felt}
    (h : ∀ csk ∈ entries, csk.storageKeys ≠ []) :
    ∀ csk ∈ pushStorageKey entries a k, csk.storageKeys ≠ [] := by
  rcases List.eq_nil_or_concat entries with rfl | ⟨es, last, rfl⟩
  · simp [pushStorageKey]
  · have hes : ∀ csk ∈ es, csk.storageKeys ≠ [] := fun csk hc => h csk (by simp [hc])
    intro csk hcsk
    by_cases e : last.contractAddress = a
    · simp only [pushStorageKey, List.concat_eq_append, List.getLast?_append,
        List.getLast?_singleton, Option.some_or, e, if_true, List.dropLast_concat,
        List.mem_append, List.mem_singleton] at hcsk
      rcases hcsk with hc | rfl
      · exact hes csk hc
      · simp
    · simp only [pushStorageKey, List.concat_eq_append, List.getLast?_append,
        List.getLast?_singleton, Option.some_or, e, if_false, List.mem_append,
        List.mem_singleton] at hcsk
      rcases hcsk with hc | rfl
      · exact h csk (by simpa using hc)
      · simp

/-- A collected storage entry has a key. -/
theorem storageKeys_ne_nil_collectQuery (items : List QueryItem) :
    ∀ csk ∈ (collectQuery items).contractStorageKeys, csk.storageKeys ≠ [] := by
  have hfold : ∀ (items : List QueryItem) (query : RpcStorageProofsQuery),
      (∀ csk ∈ query.contractStorageKeys, csk.storageKeys ≠ []) →
      ∀ csk ∈ (items.foldl collectItem query).contractStorageKeys, csk.storageKeys ≠ [] := by
    intro items
    induction items with
    | nil => exact fun _ h => h
    | cons item items ih =>
        intro query h
        refine ih (collectItem query item) ?_
        cases item with
        | classHash _ => exact h
        | contractAddress _ => exact h
        | storageKey a k => exact storageKeys_ne_nil_pushStorageKey h
  exact hfold items .empty (by simp [RpcStorageProofsQuery.empty])

/-- Every address of a chunk's storage entries is one of the query's. -/
theorem mem_addresses_of_mem_chunkQueries {query chunk : RpcStorageProofsQuery} {maxKeys : ℕ}
    (h : 0 < maxKeys) (hchunk : chunk ∈ chunkQueries query maxKeys) {csk : ContractStorageKeys}
    (hcsk : csk ∈ chunk.contractStorageKeys) :
    ∃ e ∈ query.contractStorageKeys, e.contractAddress = csk.contractAddress := by
  obtain ⟨items, -, rfl⟩ := List.mem_map.mp hchunk
  obtain ⟨k, hk⟩ := List.exists_mem_of_ne_nil _ (storageKeys_ne_nil_collectQuery items csk hcsk)
  have hpair : (csk.contractAddress, k)
      ∈ storagePairs ((chunkQueries query maxKeys).flatMap (·.contractStorageKeys)) :=
    List.mem_flatMap.mpr ⟨csk, List.mem_flatMap.mpr ⟨_, hchunk, hcsk⟩,
      List.mem_map.mpr ⟨k, hk, rfl⟩⟩
  rw [(flatMap_chunkQueries query h).2.2] at hpair
  obtain ⟨e, he, hmem⟩ := List.mem_flatMap.mp hpair
  obtain ⟨_, -, heq⟩ := List.mem_map.mp hmem
  exact ⟨e, he, (Prod.mk.inj heq).1⟩

/-- A query with a key has a chunk. -/
theorem chunkQueries_ne_nil {query : RpcStorageProofsQuery} (h : 0 < countTotalKeys query)
    (maxKeys : ℕ) : chunkQueries query maxKeys ≠ [] := by
  intro e
  have hnil : flattenQuery query = [] := chunks_eq_nil_iff.mp (List.map_eq_nil_iff.mp e)
  rw [← length_flattenQuery, hnil] at h
  exact absurd h (lt_irrefl 0)

end Snip36.StorageProofs
