import Snip36.StorageProofs.Provider

/-!
# Storage proofs — requests cover the reads

The query of an execution asks for every storage read once, and what is sent for any query holds
its keys once and in order.

* `storagePairs_prepareQuery_perm`: the pairs of a contract and a key that the query asks for are
  those of the reads, each as often.
* `flattenQuery_collectQuery`: on a list in which class hashes come first, contract addresses
  next and storage keys last, collecting is undone by flattening, wherever the list begins and
  ends.  A chunk of a flattened query is such a list.
* `exists_mergeStorageProofs_eq_ok`: the answers to the chunks of a query merge without a panic,
  also where an address has two entries.
-/

namespace Snip36.StorageProofs
open Support Running

/-! ### The query of an execution -/

section PrepareQuery

variable {Output Message BaseBlockInfo : Type} (cache : StateCache)
  (executionData : VirtualBlockExecutionData Output Message BaseBlockInfo)

/-- The addresses come in order, each once. -/
theorem sortedLT_contractAddresses :
    (prepareQuery cache executionData).contractAddresses.Pairwise (· < ·) := by
  have hnodup := (aligned_prepareQuery cache executionData).nodup
  have hsorted : (prepareQuery cache executionData).contractAddresses.Pairwise (· ≤ ·) :=
    List.pairwise_insertionSort (· ≤ ·) _
  refine (hsorted.and hnodup).imp ?_
  rintro a b ⟨hle, hne⟩
  exact lt_of_le_of_ne hle hne

/-- A list without repetitions, sorted into the groups of its elements' labels. -/
theorem flatMap_filter_perm {α β : Type} [DecidableEq β] (g : α → β) {as : List β} {xs : List α}
    (has : as.Nodup) (hxs : xs.Nodup) (hmem : ∀ x ∈ xs, g x ∈ as) :
    (as.flatMap fun a => xs.filter fun x => g x = a).Perm xs := by
  refine (List.perm_ext_iff_of_nodup (List.nodup_flatMap.mpr ⟨?_, ?_⟩) hxs).mpr fun x => ?_
  · exact fun a _ => hxs.filter _
  · refine has.imp fun {a b} hab x hx hx' => hab ?_
    have hxa : g x = a := by simpa using (List.mem_filter.mp hx).2
    have hxb : g x = b := by simpa using (List.mem_filter.mp hx').2
    exact hxa.symm.trans hxb
  · rw [List.mem_flatMap]
    constructor
    · rintro ⟨a, -, hx⟩
      exact (List.mem_filter.mp hx).1
    · intro hx
      exact ⟨g x, hmem x hx, List.mem_filter.mpr ⟨hx, by simp⟩⟩

/-- A read's address and key, as felts. -/
def readPair (read : ContractAddress × StorageKey) : Felt × Felt := (read.1.key, read.2.key)

theorem readPair_injective : Function.Injective readPair := by
  intro read read' h
  obtain ⟨ha, hk⟩ := Prod.mk.inj h
  exact Prod.ext (PatriciaKey.key_injective ha) (PatriciaKey.key_injective hk)

/-- **The query asks for the storage reads**, each as often as it occurs. -/
theorem storagePairs_prepareQuery_perm :
    (storagePairs (prepareQuery cache executionData).contractStorageKeys).Perm
      (executionData.initialReads.storage.keys.map readPair) := by
  have hgroups : storagePairs (prepareQuery cache executionData).contractStorageKeys
      = ((prepareQuery cache executionData).contractAddresses.flatMap fun a =>
          executionData.initialReads.storage.keys.filter fun read => read.1 = a).map readPair := by
    rw [storagePairs, List.map_flatMap]
    simp only [prepareQuery, List.flatMap_map]
    refine List.flatMap_congr fun a _ => ?_
    rw [storageByAddress, List.map_map]
    refine List.map_congr_left fun read hread => ?_
    have ha : read.1 = a := by simpa using (List.mem_filter.mp hread).2
    exact Prod.ext (congrArg PatriciaKey.key ha.symm) rfl
  rw [hgroups]
  refine (flatMap_filter_perm Prod.fst (aligned_prepareQuery cache executionData).nodup
    executionData.initialReads.storage.nodupKeys fun read hread => ?_).map readPair
  exact (mem_contractAddresses_prepareQuery cache executionData).mpr (.inl ⟨read.2, hread⟩)

theorem nodup_storagePairs_prepareQuery :
    (storagePairs (prepareQuery cache executionData).contractStorageKeys).Nodup :=
  (storagePairs_prepareQuery_perm cache executionData).nodup_iff.mpr
    (executionData.initialReads.storage.nodupKeys.map readPair_injective)

end PrepareQuery

/-! ### Flattening and collecting -/

/-- Class hashes come before contract addresses, and these before storage keys. -/
def QueryItem.rank : QueryItem → ℕ
  | .classHash _ => 0
  | .contractAddress _ => 1
  | .storageKey _ _ => 2

/-- A list of items in which the kinds come in order. -/
def KindsInOrder (items : List QueryItem) : Prop :=
  items.Pairwise fun x y => x.rank ≤ y.rank

/-- The item of a pair of a contract and a key. -/
def QueryItem.ofPair (p : Felt × Felt) : QueryItem := .storageKey p.1 p.2

theorem flattenQuery_eq (query : RpcStorageProofsQuery) :
    flattenQuery query = query.classHashes.map .classHash
      ++ query.contractAddresses.map .contractAddress
      ++ (storagePairs query.contractStorageKeys).map .ofPair := by
  simp [flattenQuery, storagePairs, List.map_flatMap, Function.comp_def, QueryItem.ofPair]

theorem kindsInOrder_map {α : Type} (f : α → QueryItem) {n : ℕ} (hf : ∀ a, (f a).rank = n)
    (as : List α) : KindsInOrder (as.map f) := by
  refine List.pairwise_map.mpr (List.pairwise_of_forall fun a b => ?_)
  rw [hf a, hf b]

theorem kindsInOrder_flattenQuery (query : RpcStorageProofsQuery) :
    KindsInOrder (flattenQuery query) := by
  rw [flattenQuery_eq, KindsInOrder, List.pairwise_append, List.pairwise_append]
  refine ⟨⟨kindsInOrder_map .classHash (n := 0) (fun _ => rfl) _,
    kindsInOrder_map .contractAddress (n := 1) (fun _ => rfl) _, ?_⟩,
    kindsInOrder_map .ofPair (n := 2) (fun _ => rfl) _, ?_⟩
  · intro x hx y _
    obtain ⟨h, -, rfl⟩ := List.mem_map.mp hx
    exact Nat.zero_le _
  · intro x _ y hy
    obtain ⟨p, -, rfl⟩ := List.mem_map.mp hy
    cases x <;> simp [QueryItem.rank, QueryItem.ofPair]

/-- Items whose ranks are above a kind's are none of that kind. -/
theorem filterMap_eq_nil_of_rank {α : Type} {f : QueryItem → Option α} {n : ℕ}
    (hf : ∀ x, n < x.rank → f x = none) {items : List QueryItem} (h : ∀ x ∈ items, n < x.rank) :
    items.filterMap f = [] :=
  List.filterMap_eq_nil_iff.mpr fun x hx => hf x (h x hx)

theorem asClassHash_of_rank (x : QueryItem) (h : 0 < x.rank) : x.asClassHash = none := by
  cases x with
  | classHash _ => exact absurd h (lt_irrefl 0)
  | contractAddress _ => rfl
  | storageKey _ _ => rfl

theorem asContractAddress_of_rank (x : QueryItem) (h : 1 < x.rank) :
    x.asContractAddress = none := by
  cases x with
  | classHash _ => rfl
  | contractAddress _ => exact absurd h (lt_irrefl 1)
  | storageKey _ _ => rfl

/-- Items whose kinds come in order are their class hashes, then their contract addresses, then
their storage keys. -/
theorem kinds_append_eq {items : List QueryItem} (h : KindsInOrder items) :
    (items.filterMap QueryItem.asClassHash).map .classHash
      ++ (items.filterMap QueryItem.asContractAddress).map .contractAddress
      ++ (items.filterMap QueryItem.asStoragePair).map .ofPair = items := by
  induction items with
  | nil => rfl
  | cons x items ih =>
      obtain ⟨hx, hitems⟩ := List.pairwise_cons.mp h
      have hrest := ih hitems
      cases x with
      | classHash _ =>
          rw [List.filterMap_cons, List.filterMap_cons, List.filterMap_cons]
          exact congrArg (List.cons _) hrest
      | contractAddress _ =>
          have hc : items.filterMap QueryItem.asClassHash = [] :=
            filterMap_eq_nil_of_rank asClassHash_of_rank fun y hy => hx y hy
          rw [List.filterMap_cons, List.filterMap_cons, List.filterMap_cons]
          simp only [hc, List.map_nil, List.nil_append] at hrest
          simp only [QueryItem.asClassHash, QueryItem.asContractAddress, QueryItem.asStoragePair,
            hc, List.map_nil, List.nil_append, List.map_cons, List.cons_append]
          exact congrArg (List.cons _) hrest
      | storageKey _ _ =>
          have hc : items.filterMap QueryItem.asClassHash = [] :=
            filterMap_eq_nil_of_rank asClassHash_of_rank fun y hy =>
              (Nat.zero_lt_succ 1).trans_le (hx y hy)
          have ha : items.filterMap QueryItem.asContractAddress = [] :=
            filterMap_eq_nil_of_rank asContractAddress_of_rank fun y hy => hx y hy
          rw [List.filterMap_cons, List.filterMap_cons, List.filterMap_cons]
          simp only [hc, ha, List.map_nil, List.nil_append] at hrest
          simp only [QueryItem.asClassHash, QueryItem.asContractAddress, QueryItem.asStoragePair,
            hc, ha, List.map_nil, List.nil_append, List.map_cons]
          exact congrArg (List.cons _) hrest

/-- **Flattening undoes collecting**, on items whose kinds come in order. -/
theorem flattenQuery_collectQuery {items : List QueryItem} (h : KindsInOrder items) :
    flattenQuery (collectQuery items) = items := by
  obtain ⟨hc, ha, hs⟩ := collectQuery_spec items
  rw [flattenQuery_eq, hc, ha, hs, kinds_append_eq h]

/-- The chunks of a query, flattened, are the query flattened. -/
theorem flatMap_flattenQuery_chunkQueries (query : RpcStorageProofsQuery) {maxKeys : ℕ}
    (h : 0 < maxKeys) :
    (chunkQueries query maxKeys).flatMap flattenQuery = flattenQuery query := by
  have hflat := flatten_chunks h (flattenQuery query)
  -- a slice keeps the kinds in order
  have hslice : ∀ items ∈ chunks maxKeys (flattenQuery query),
      flattenQuery (collectQuery items) = items := by
    intro items hitems
    have hsub : items.Sublist (flattenQuery query) := hflat ▸ List.sublist_flatten_of_mem hitems
    exact flattenQuery_collectQuery ((kindsInOrder_flattenQuery query).sublist hsub)
  rw [chunkQueries, List.flatMap_map, List.flatMap_congr hslice, List.flatMap_id']
  exact hflat

/-! ### The sizes of the chunks -/

theorem countTotalKeys_pos_of_mem_chunkQueries {query chunk : RpcStorageProofsQuery} {maxKeys : ℕ}
    (h : 0 < maxKeys) (hchunk : chunk ∈ chunkQueries query maxKeys) : 0 < countTotalKeys chunk := by
  obtain ⟨items, hitems, rfl⟩ := List.mem_map.mp hchunk
  rw [countTotalKeys_collectQuery]
  exact List.length_pos_of_ne_nil (ne_nil_of_mem_chunks h hitems)

theorem countTotalKeys_of_mem_dropLast {query chunk : RpcStorageProofsQuery} {maxKeys : ℕ}
    (h : 0 < maxKeys) (hchunk : chunk ∈ (chunkQueries query maxKeys).dropLast) :
    countTotalKeys chunk = maxKeys := by
  rw [chunkQueries, ← List.map_dropLast] at hchunk
  obtain ⟨items, hitems, rfl⟩ := List.mem_map.mp hchunk
  rw [countTotalKeys_collectQuery]
  exact length_of_mem_dropLast_chunks h hitems

/-! ### Merging the answers -/

/-- An address of the query has an index, and the index is a position of the vector. -/
theorem exists_get_addrToIdx {query : RpcStorageProofsQuery} {a : Felt}
    (ha : a ∈ storageAddresses query) :
    ∃ i, (addrToIdx query).get a = some i ∧ i < query.contractStorageKeys.length := by
  obtain ⟨csk, hcsk, rfl⟩ := List.mem_map.mp ha
  obtain ⟨i, hi⟩ := List.mem_iff_getElem?.mp hcsk
  have hkey : csk.contractAddress ∈ (query.contractStorageKeys.zipIdx.map
      fun x : ContractStorageKeys × ℕ => (x.1.contractAddress, x.2)).map Prod.fst :=
    List.mem_map.mpr ⟨(csk.contractAddress, i),
      List.mem_map.mpr ⟨(csk, i), List.mem_zipIdx_iff_getElem?.mpr hi, rfl⟩, rfl⟩
  -- an address that occurs twice has the index of its last entry
  obtain ⟨j, hj⟩ := IndexMap.exists_get_ofList hkey
  obtain ⟨⟨csk', j'⟩, hmem', heq⟩ := List.mem_map.mp (IndexMap.mem_of_get_ofList hj)
  obtain ⟨-, rfl⟩ := Prod.mk.inj heq
  exact ⟨j', hj, (List.getElem?_eq_some_iff.mp (List.mem_zipIdx_iff_getElem?.mp hmem')).1⟩

/-- The outer loop's body does not panic on a chunk with addresses of the query. -/
theorem exists_mergeChunk_eq_ok {ε : Type} {query chunk : RpcStorageProofsQuery}
    (h : AddressesIn query chunk) (acc proof : RpcStorageProof) :
    ∃ acc', (mergeChunk query acc (chunk, proof) : Fallible ε _) = .ok acc' := by
  have hstep : ∀ entry ∈ chunk.contractStorageKeys.zip proof.contractsStorageProofs,
      ∀ maps, ∃ maps', (mergeStorageProof query maps entry : Fallible ε _) = .ok maps' := by
    intro entry hentry maps
    obtain ⟨i, hi, -⟩ := exists_get_addrToIdx (h entry.1 (List.of_mem_zip hentry).1)
    exact ⟨_, by rw [mergeStorageProof, hi]; rfl⟩
  obtain ⟨maps, hmaps⟩ := exists_foldlM_eq_ok hstep acc.contractsStorageProofs
  exact ⟨_, by rw [mergeChunk, hmaps]; rfl⟩

/-- **The answers to the chunks merge**, whatever they are. -/
theorem exists_mergeStorageProofs_eq_ok {ε : Type} {query : RpcStorageProofsQuery}
    {chunks : List RpcStorageProofsQuery} (ha : ∀ chunk ∈ chunks, AddressesIn query chunk)
    {proofs : List RpcStorageProof} (hlen : proofs.length = chunks.length)
    (hne : proofs ≠ []) :
    ∃ merged, (mergeStorageProofs proofs chunks query : Fallible ε _) = .ok merged := by
  obtain ⟨first, rest, rfl⟩ := List.exists_cons_of_ne_nil hne
  rw [mergeStorageProofs, require_of hlen]
  exact exists_foldlM_eq_ok (fun x hx acc =>
    exists_mergeChunk_eq_ok (ha x.1 (List.of_mem_zip hx).1) acc x.2) _

/-- **Requests cover every read once, within the limit**, and their answers merge. -/
theorem requests_cover_reads :
    (∀ {Output Message BaseBlockInfo : Type} (cache : StateCache)
        (executionData : VirtualBlockExecutionData Output Message BaseBlockInfo),
      let query := prepareQuery cache executionData
      query.contractAddresses.Pairwise (· < ·) ∧
        query.contractStorageKeys.map (·.contractAddress) = query.contractAddresses.map (·.key) ∧
        (storagePairs query.contractStorageKeys).Nodup ∧
        (storagePairs query.contractStorageKeys).Perm
          (executionData.initialReads.storage.keys.map readPair)) ∧
      ∀ (ε : Type) (query : RpcStorageProofsQuery) (maxKeys : ℕ), 0 < maxKeys →
        ∃ chunks, (splitQuery query maxKeys : Fallible ε _) = .ok chunks ∧
          (∀ chunk ∈ chunks, 0 < countTotalKeys chunk ∧ countTotalKeys chunk ≤ maxKeys) ∧
          (∀ chunk ∈ chunks.dropLast, countTotalKeys chunk = maxKeys) ∧
          chunks.flatMap flattenQuery = flattenQuery query ∧
          (∀ chunk ∈ chunks, ∀ csk ∈ chunk.contractStorageKeys, ∃ i,
            (addrToIdx query).get csk.contractAddress = some i ∧
              i < query.contractStorageKeys.length) ∧
          ∀ proofs : List RpcStorageProof, proofs.length = chunks.length → chunks ≠ [] →
            ∃ merged, (mergeStorageProofs proofs chunks query : Fallible ε _) = .ok merged := by
  constructor
  · intro Output Message BaseBlockInfo cache executionData
    exact ⟨sortedLT_contractAddresses cache executionData,
      (aligned_prepareQuery cache executionData).addresses,
      nodup_storagePairs_prepareQuery cache executionData,
      storagePairs_prepareQuery_perm cache executionData⟩
  · intro ε query maxKeys hpos
    have hin : ∀ chunk ∈ chunkQueries query maxKeys, AddressesIn query chunk := by
      intro chunk hchunk csk hcsk
      obtain ⟨e, he, haddr⟩ := mem_addresses_of_mem_chunkQueries hpos hchunk hcsk
      exact List.mem_map.mpr ⟨e, he, haddr⟩
    refine ⟨chunkQueries query maxKeys, splitQuery_eq query hpos, fun chunk hchunk =>
      ⟨countTotalKeys_pos_of_mem_chunkQueries hpos hchunk,
        countTotalKeys_of_mem_chunkQueries hchunk⟩,
      fun chunk hchunk => countTotalKeys_of_mem_dropLast hpos hchunk,
      flatMap_flattenQuery_chunkQueries query hpos,
      fun chunk hchunk csk hcsk => exists_get_addrToIdx (hin chunk hchunk csk hcsk), ?_⟩
    intro proofs hlen hne
    refine exists_mergeStorageProofs_eq_ok hin hlen fun hnil => hne ?_
    rw [hnil] at hlen
    exact List.eq_nil_of_length_eq_zero hlen.symm

/-- A query with two entries of one address and an empty one. -/
def repeatedQuery : RpcStorageProofsQuery := ⟨[7], [], [⟨1, [2, 3]⟩, ⟨1, [4]⟩, ⟨5, []⟩]⟩

theorem requests_cover_repeatedQuery :
    ∃ chunks, (splitQuery repeatedQuery 2 : Fallible String _) = .ok chunks ∧
      (∀ chunk ∈ chunks, 0 < countTotalKeys chunk ∧ countTotalKeys chunk ≤ 2) ∧
      chunks.flatMap flattenQuery = flattenQuery repeatedQuery := by
  obtain ⟨chunks, hsplit, hsize, -, hflat, -⟩ :=
    requests_cover_reads.2 String repeatedQuery 2 Nat.two_pos
  exact ⟨chunks, hsplit, hsize, hflat⟩

/-- The keys of the two entries come back in one, and the empty entry is gone. -/
example : chunkQueries repeatedQuery 2 = [⟨[7], [], [⟨1, [2]⟩]⟩, ⟨[], [], [⟨1, [3, 4]⟩]⟩] := by
  decide +kernel

end Snip36.StorageProofs
