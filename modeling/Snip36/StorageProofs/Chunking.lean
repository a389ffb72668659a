import Snip36.StorageProofs.Merge

/-!
# Storage proofs — chunked fetching is unchunked fetching

A per-key node (`NodeOracle`) answers every key of a request on its own: a key has a list of trie
nodes, a contract address has a leaf, and one hash denotes one node.  `Answers o query proof` says
that `proof` answers `query` in any order of nodes: every node map is the graph of `o.preimage` on
the hashes of the keys asked for.

Merging the answers to the chunks of a query gives an answer to the query
(`answers_mergedFrom`), and two answers to one query are the same proof (`Answers.same`).
-/

namespace Snip36.StorageProofs
open Support

/-- A node that answers key by key. -/
structure NodeOracle where
  preimage : Felt → MerkleNode
  classNodes : Felt → List Felt
  contractNodes : ContractAddress → List Felt
  storageNodes : Felt → Felt → List Felt
  leaf : ContractAddress → ContractLeafData
  globalRoots : GlobalRoots

namespace NodeOracle

variable (o : NodeOracle)

/-- The hashes of the trie nodes of some class hashes. -/
def classSet (classHashes : List Felt) : Set Felt := {h | ∃ c ∈ classHashes, h ∈ o.classNodes c}

/-- The hashes of the trie nodes of some contract addresses. -/
def contractSet (addresses : List ContractAddress) : Set Felt :=
  {h | ∃ a ∈ addresses, h ∈ o.contractNodes a}

/-- The hashes of the trie nodes of the keys `pairs` pairs with `a`. -/
def storageSet (a : Felt) (pairs : List (Felt × Felt)) : Set Felt :=
  {h | ∃ k, (a, k) ∈ pairs ∧ h ∈ o.storageNodes a k}

/-- The proof of a storage entry holds the nodes of its keys. -/
def EntryAnswer (csk : ContractStorageKeys) (nodes : IndexMap Felt MerkleNode) : Prop :=
  nodes.Graph o.preimage (o.storageSet csk.contractAddress (storagePairs [csk]))

/-- `proof` is the node's answer to `query`. -/
structure Answers (query : RpcStorageProofsQuery) (proof : RpcStorageProof) : Prop where
  classes : proof.classesProof.Graph o.preimage (o.classSet query.classHashes)
  contracts : proof.contractsProof.nodes.Graph o.preimage (o.contractSet query.contractAddresses)
  leaves : proof.contractsProof.contractLeavesData = query.contractAddresses.map o.leaf
  storage : List.Forall₂ o.EntryAnswer query.contractStorageKeys proof.contractsStorageProofs
  roots : proof.globalRoots = o.globalRoots

end NodeOracle

/-- Two proofs are the same: equal as `RpcStorageProof`s, whose node maps compare as maps. -/
structure RpcStorageProof.Same (p p' : RpcStorageProof) : Prop where
  classes : p.classesProof ≈ p'.classesProof
  contracts : p.contractsProof.nodes ≈ p'.contractsProof.nodes
  leaves : p.contractsProof.contractLeavesData = p'.contractsProof.contractLeavesData
  storage : List.Forall₂ (· ≈ ·) p.contractsStorageProofs p'.contractsStorageProofs
  roots : p.globalRoots = p'.globalRoots

namespace NodeOracle

variable {o : NodeOracle}

theorem mem_storageSet_append {a h : Felt} {ps qs : List (Felt × Felt)} :
    h ∈ o.storageSet a (ps ++ qs) ↔ h ∈ o.storageSet a ps ∨ h ∈ o.storageSet a qs := by
  constructor
  · rintro ⟨k, hk, hh⟩
    rcases List.mem_append.mp hk with hk | hk
    · exact .inl ⟨k, hk, hh⟩
    · exact .inr ⟨k, hk, hh⟩
  · rintro (⟨k, hk, hh⟩ | ⟨k, hk, hh⟩)
    · exact ⟨k, List.mem_append_left _ hk, hh⟩
    · exact ⟨k, List.mem_append_right _ hk, hh⟩

/-- A pair of an entry has the entry's address. -/
theorem storageSet_of_ne {a h : Felt} {csk : ContractStorageKeys} (hne : a ≠ csk.contractAddress) :
    h ∉ o.storageSet a (storagePairs [csk]) := by
  rintro ⟨k, hk, -⟩
  simp only [storagePairs, List.flatMap_cons, List.flatMap_nil, List.append_nil,
    List.mem_map, Prod.mk.injEq] at hk
  obtain ⟨-, -, e, -⟩ := hk
  exact hne e.symm

theorem mem_classSet_flatMap {α : Type} {as : List α} {f : α → List Felt} {h : Felt} :
    h ∈ o.classSet (as.flatMap f) ↔ ∃ a ∈ as, h ∈ o.classSet (f a) := by
  constructor
  · rintro ⟨c, hc, hh⟩
    obtain ⟨a, ha, hca⟩ := List.mem_flatMap.mp hc
    exact ⟨a, ha, c, hca, hh⟩
  · rintro ⟨a, ha, c, hca, hh⟩
    exact ⟨c, List.mem_flatMap.mpr ⟨a, ha, hca⟩, hh⟩

theorem mem_contractSet_flatMap {α : Type} {as : List α} {f : α → List ContractAddress}
    {h : Felt} : h ∈ o.contractSet (as.flatMap f) ↔ ∃ a ∈ as, h ∈ o.contractSet (f a) := by
  constructor
  · rintro ⟨c, hc, hh⟩
    obtain ⟨a, ha, hca⟩ := List.mem_flatMap.mp hc
    exact ⟨a, ha, c, hca, hh⟩
  · rintro ⟨a, ha, c, hca, hh⟩
    exact ⟨c, List.mem_flatMap.mpr ⟨a, ha, hca⟩, hh⟩

/-- Two answers to one query are the same proof. -/
theorem Answers.same {query : RpcStorageProofsQuery} {p p' : RpcStorageProof}
    (h : o.Answers query p) (h' : o.Answers query p') : p.Same p' where
  classes := h.classes.equiv h'.classes
  contracts := h.contracts.equiv h'.contracts
  leaves := h.leaves.trans h'.leaves.symm
  storage := by
    have hlen : p.contractsStorageProofs.length = p'.contractsStorageProofs.length :=
      h.storage.length_eq.symm.trans h'.storage.length_eq
    refine List.forall₂_iff_get.mpr ⟨hlen, fun i hi hi' => ?_⟩
    have hq : i < query.contractStorageKeys.length := h.storage.length_eq ▸ hi
    exact (h.storage.get hq hi).equiv (h'.storage.get hq hi')
  roots := h.roots.trans h'.roots.symm

/-! ### The vector of storage proofs -/

/-- Position by position, the vector holds the nodes of the keys of `pairs` at the position's
address. -/
def Holds (o : NodeOracle) (entries : List ContractStorageKeys) (pairs : List (Felt × Felt))
    (acc : List (IndexMap Felt MerkleNode)) : Prop :=
  List.Forall₂ (fun e m => m.Graph o.preimage (o.storageSet e.contractAddress pairs)) entries acc

/-- Placing the answer to an entry adds the entry's pairs. -/
theorem Holds.placeProof {entries : List ContractStorageKeys} {pairs : List (Felt × Felt)}
    {acc : List (IndexMap Felt MerkleNode)} (h : o.Holds entries pairs acc)
    {csk : ContractStorageKeys} {m : IndexMap Felt MerkleNode} (hm : o.EntryAnswer csk m) :
    o.Holds entries (pairs ++ storagePairs [csk]) (placeProof entries acc (csk, m)) := by
  unfold Holds StorageProofs.placeProof at *
  induction h with
  | nil => exact .nil
  | @cons e old entries acc hold _ ih =>
      refine .cons ?_ ih
      change IndexMap.Graph _ _ (if e.contractAddress = csk.contractAddress then _ else old)
      by_cases heq : e.contractAddress = csk.contractAddress
      · rw [if_pos heq]
        refine (hold.extend hm).congr fun k => ?_
        rw [Set.mem_union, mem_storageSet_append, heq]
      · rw [if_neg heq]
        refine hold.congr fun k => ?_
        rw [mem_storageSet_append, or_iff_left (storageSet_of_ne heq)]

theorem Holds.foldl_placeProof {entries : List ContractStorageKeys}
    (added : List (ContractStorageKeys × IndexMap Felt MerkleNode))
    {pairs : List (Felt × Felt)} {acc : List (IndexMap Felt MerkleNode)}
    (h : o.Holds entries pairs acc) (ha : ∀ x ∈ added, o.EntryAnswer x.1 x.2) :
    o.Holds entries (pairs ++ storagePairs (added.map Prod.fst))
      (added.foldl (StorageProofs.placeProof entries) acc) := by
  induction added generalizing pairs acc with
  | nil => simpa [storagePairs] using h
  | cons x added ih =>
      have hstep := h.placeProof (ha x (by simp))
      have hrest := ih hstep fun y hy => ha y (by simp [hy])
      rw [List.append_assoc, ← storagePairs_append] at hrest
      exact hrest

theorem holds_mergeInit (query : RpcStorageProofsQuery) (roots : GlobalRoots) :
    o.Holds query.contractStorageKeys [] (mergeInit query roots).contractsStorageProofs := by
  have hempty : ∀ a : Felt, o.storageSet a [] = ∅ := fun a => by
    ext h; simp [storageSet]
  unfold Holds mergeInit
  induction query.contractStorageKeys with
  | nil => exact .nil
  | cons e entries ih =>
      exact .cons (by rw [hempty]; exact IndexMap.Graph.empty _) ih

/-- At distinct addresses, the pairs of a query with an entry's address are the entry's. -/
theorem storageSet_of_mem {entries : List ContractStorageKeys}
    (hnd : (entries.map (·.contractAddress)).Nodup) {e : ContractStorageKeys} (he : e ∈ entries) :
    o.storageSet e.contractAddress (storagePairs entries)
      = o.storageSet e.contractAddress (storagePairs [e]) := by
  ext h
  constructor
  · rintro ⟨k, hk, hh⟩
    obtain ⟨e', he', hk'⟩ := List.mem_flatMap.mp hk
    obtain ⟨k', hmem, heq⟩ := List.mem_map.mp hk'
    obtain ⟨ha, rfl⟩ := Prod.mk.inj heq
    obtain rfl : e' = e := List.inj_on_of_nodup_map hnd he' he ha
    exact ⟨k', by simpa [storagePairs] using hmem, hh⟩
  · rintro ⟨k, hk, hh⟩
    refine ⟨k, List.mem_flatMap.mpr ⟨e, he, ?_⟩, hh⟩
    simpa [storagePairs] using hk

/-! ### The merged answer -/

theorem flatMap_map_fst {α β γ : Type} {as : List α} {bs : List β} (h : as.length = bs.length)
    (f : α → List γ) : ((as.zip bs).flatMap fun x => f x.1) = as.flatMap f := by
  rw [← List.flatMap_map Prod.fst f, List.map_fst_zip h.le]

/-- The entries of answered chunks are the chunks' entries, each with its answer. -/
theorem map_fst_answeredEntries
    {answered : List (RpcStorageProofsQuery × RpcStorageProof)}
    (h : ∀ x ∈ answered, o.Answers x.1 x.2) :
    (answeredEntries answered).map Prod.fst
      = answered.flatMap fun x => x.1.contractStorageKeys := by
  rw [answeredEntries, List.map_flatMap]
  refine List.flatMap_congr fun x hx => ?_
  exact List.map_fst_zip (h x hx).storage.length_eq.le

theorem entryAnswer_of_mem_answeredEntries
    {answered : List (RpcStorageProofsQuery × RpcStorageProof)}
    (h : ∀ x ∈ answered, o.Answers x.1 x.2) :
    ∀ e ∈ answeredEntries answered, o.EntryAnswer e.1 e.2 := by
  intro e he
  obtain ⟨x, hx, hmem⟩ := List.mem_flatMap.mp he
  obtain ⟨csk, m⟩ := e
  exact List.forall₂_zip (h x hx).storage hmem

/-- **Merging answers gives an answer.**  The merged answers to the chunks of a query with
distinct addresses answer the query. -/
theorem answers_mergedFrom {query : RpcStorageProofsQuery}
    (hnd : (storageAddresses query).Nodup) {maxKeys : ℕ} (hmax : 0 < maxKeys)
    {proofs : List RpcStorageProof}
    (hproofs : List.Forall₂ o.Answers (chunkQueries query maxKeys) proofs) :
    o.Answers query (mergedFrom query (mergeInit query o.globalRoots)
      ((chunkQueries query maxKeys).zip proofs)) := by
  obtain ⟨hclass, haddr, hpairs⟩ := flatMap_chunkQueries query hmax
  have hlen := hproofs.length_eq
  have hans : ∀ x ∈ (chunkQueries query maxKeys).zip proofs, o.Answers x.1 x.2 := fun x hx =>
    List.forall₂_zip hproofs hx
  refine ⟨?_, ?_, ?_, ?_, rfl⟩
  · refine (IndexMap.Graph.foldl (·.2.classesProof) (fun x => o.classSet x.1.classHashes) _
      (IndexMap.Graph.empty _) fun x hx => (hans x hx).classes).congr fun h => ?_
    rw [← hclass, ← flatMap_map_fst hlen, mem_classSet_flatMap, Set.empty_union]
    rfl
  · refine (IndexMap.Graph.foldl (·.2.contractsProof.nodes)
      (fun x => o.contractSet x.1.contractAddresses) _ (IndexMap.Graph.empty _)
      fun x hx => (hans x hx).contracts).congr fun h => ?_
    rw [← haddr, ← flatMap_map_fst hlen, mem_contractSet_flatMap, Set.empty_union]
    rfl
  · rw [← haddr, ← flatMap_map_fst hlen, List.map_flatMap]
    simp only [mergedFrom, mergeInit, List.nil_append]
    exact List.flatMap_congr fun x hx => (hans x hx).leaves
  · have hentries := entryAnswer_of_mem_answeredEntries hans
    have hholds := (holds_mergeInit query o.globalRoots).foldl_placeProof _ hentries
    rw [map_fst_answeredEntries hans, flatMap_map_fst hlen (·.contractStorageKeys),
      List.nil_append, hpairs] at hholds
    obtain ⟨hlen', hpos⟩ := List.forall₂_iff_zip.mp hholds
    refine List.forall₂_iff_zip.mpr ⟨hlen', fun {e m} hmem => ?_⟩
    rw [EntryAnswer, ← storageSet_of_mem hnd (List.of_mem_zip hmem).1]
    exact hpos hmem

/-! ### The node's own answer -/

/-- The nodes at some hashes. -/
def nodeMap (o : NodeOracle) (hashes : List Felt) : IndexMap Felt MerkleNode :=
  .ofList (hashes.map fun h => (h, o.preimage h))

/-- The node's answer to a query, nodes in request order. -/
def answer (o : NodeOracle) (query : RpcStorageProofsQuery) : RpcStorageProof where
  classesProof := o.nodeMap (query.classHashes.flatMap o.classNodes)
  contractsProof := {
    nodes := o.nodeMap (query.contractAddresses.flatMap o.contractNodes)
    contractLeavesData := query.contractAddresses.map o.leaf }
  contractsStorageProofs := query.contractStorageKeys.map fun csk =>
    o.nodeMap (csk.storageKeys.flatMap (o.storageNodes csk.contractAddress))
  globalRoots := o.globalRoots

theorem graph_nodeMap (hashes : List Felt) :
    (o.nodeMap hashes).Graph o.preimage {h | h ∈ hashes} :=
  (IndexMap.Graph.extend_map hashes (IndexMap.Graph.empty _)).congr fun _ => by simp

theorem answers_answer (query : RpcStorageProofsQuery) : o.Answers query (o.answer query) where
  classes := (graph_nodeMap _).congr fun h => List.mem_flatMap
  contracts := (graph_nodeMap _).congr fun h => List.mem_flatMap
  leaves := rfl
  storage := by
    refine List.forall₂_map_right_iff.mpr (List.forall₂_same.mpr fun csk _ => ?_)
    refine (graph_nodeMap _).congr fun h => ?_
    simp [storageSet, storagePairs]
  roots := rfl

end NodeOracle

/-! ### The chunking law -/

/-- **Chunked fetching equals unchunked fetching.**  At distinct contract addresses and with at
least one key, the merged answers to the chunks are the answer to the whole query. -/
theorem merge_split_same {ε : Type} (o : NodeOracle) (query : RpcStorageProofsQuery)
    (maxKeys : ℕ) (hnd : (storageAddresses query).Nodup) (hmax : 0 < maxKeys)
    (hkeys : 0 < countTotalKeys query) :
    ∃ chunks, (splitQuery query maxKeys : Fallible ε _) = .ok chunks ∧
      ∀ (proofs : List RpcStorageProof) (whole : RpcStorageProof),
        List.Forall₂ o.Answers chunks proofs → o.Answers query whole →
        ∃ merged, (mergeStorageProofs proofs chunks query : Fallible ε _) = .ok merged ∧
          merged.Same whole := by
  refine ⟨chunkQueries query maxKeys, splitQuery_eq query hmax, fun proofs whole hproofs hw => ?_⟩
  cases proofs with
  | nil => exact absurd (List.forall₂_nil_right_iff.mp hproofs) (chunkQueries_ne_nil hkeys maxKeys)
  | cons first rest =>
      have haddr : ∀ chunk ∈ chunkQueries query maxKeys, AddressesIn query chunk :=
        fun chunk hc csk hcsk => by
          obtain ⟨e, he, heq⟩ := mem_addresses_of_mem_chunkQueries hmax hc hcsk
          exact List.mem_map.mpr ⟨e, he, heq⟩
      have hroots : first.globalRoots = o.globalRoots := by
        obtain ⟨chunk, _, hfirst, _, _⟩ := List.forall₂_cons_right_iff.mp hproofs
        exact hfirst.roots
      refine ⟨_, mergeStorageProofs_eq hnd haddr hproofs.length_eq.symm, ?_⟩
      rw [hroots]
      exact (NodeOracle.answers_mergedFrom hnd hmax hproofs).same hw

/-- The node whose key `k` has the trie nodes `k` and `k + 1`. -/
def sampleOracle : NodeOracle where
  preimage h := .binaryNode h (h + 1)
  classNodes c := [c, c + 1]
  contractNodes a := [a.key, a.key + 1]
  storageNodes _ k := [k, k + 1]
  leaf a := ⟨a.key, 42, some 99⟩
  globalRoots := ⟨100, 200, 300⟩

/-- A class hash, an address, a contract with no keys and one whose keys straddle chunks. -/
def sampleQuery : RpcStorageProofsQuery where
  classHashes := [7]
  contractAddresses := [⟨1000, by decide⟩]
  contractStorageKeys := [⟨1000, []⟩, ⟨2000, [1, 2, 3]⟩]

theorem merge_split_same_sample :
    ∃ chunks, (splitQuery sampleQuery 2 : Fallible String _) = .ok chunks ∧
      chunks.length = 3 ∧
      ∃ merged, (mergeStorageProofs (chunks.map sampleOracle.answer) chunks sampleQuery
          : Fallible String _) = .ok merged ∧ merged.Same (sampleOracle.answer sampleQuery) := by
  obtain ⟨chunks, hsplit, hmerge⟩ := merge_split_same (ε := String) sampleOracle sampleQuery 2
    (by decide) (by decide) (by decide)
  refine ⟨chunks, hsplit, ?_, hmerge _ _ ?_ (NodeOracle.answers_answer _)⟩
  · rw [splitQuery_eq sampleQuery (by decide)] at hsplit
    cases hsplit
    rfl
  · exact List.forall₂_map_right_iff.mpr
      (List.forall₂_same.mpr fun chunk _ => NodeOracle.answers_answer chunk)

end Snip36.StorageProofs
