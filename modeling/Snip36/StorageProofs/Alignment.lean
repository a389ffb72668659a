import Snip36.StorageProofs.Chunking
import Snip36.StorageProofs.Provider

/-!
# Storage proofs — the OS input is aligned with the execution

Against a node that answers key by key, `getStorageProofs` without state changes gives every
contract its own leaf and its own nodes, whatever the number of keys
(`getStorageProofs_aligned`).  Four lists go in parallel: the addresses, their leaves, the storage
entries and their proofs.  They stay in step because a fetched proof answers the query
(`answers_unitedReply`) and the query's entries stand in the order of its addresses
(`RpcStorageProofsQuery.Aligned`).
-/

namespace Snip36.StorageProofs
open Support Running

/-! ### The fetched proof -/

/-- A node that gives every query within its limit the answer of `o`. -/
def NodeOracle.Honest (o : NodeOracle) (node : ProofNode) (blockNumber : ℕ) : Prop :=
  ∀ i query, countTotalKeys query ≤ maxKeysPerRequest →
    ∃ reply, node i (proofRequest blockNumber query) = .ok reply ∧ o.Answers query reply

/-- The query of a request. -/
def StorageProofRequest.query (request : StorageProofRequest) : RpcStorageProofsQuery where
  classHashes := request.classHashes
  contractAddresses :=
    request.contractAddresses.filterMap fun a => (PatriciaKey.tryFrom a).toOption
  contractStorageKeys := request.contractStorageKeys

/-- The node that answers every request as `o` does. -/
def NodeOracle.node (o : NodeOracle) : ProofNode := fun _ request => .ok (o.answer request.query)

theorem query_proofRequest (blockNumber : ℕ) (query : RpcStorageProofsQuery) :
    (proofRequest blockNumber query).query = query := by
  have haddr : (query.contractAddresses.map (·.key)).filterMap
      (fun a => (PatriciaKey.tryFrom a).toOption) = query.contractAddresses := by
    rw [List.filterMap_map]
    simp [Function.comp_def, Except.toOption]
  rw [StorageProofRequest.query, proofRequest, haddr]

theorem NodeOracle.honest_node (o : NodeOracle) (blockNumber : ℕ) :
    o.Honest o.node blockNumber := by
  intro i query _
  refine ⟨_, rfl, ?_⟩
  rw [query_proofRequest]
  exact answers_answer query

theorem countTotalKeys_of_mem_sentQueries {query sent : RpcStorageProofsQuery}
    (h : sent ∈ sentQueries query) : countTotalKeys sent ≤ maxKeysPerRequest := by
  unfold sentQueries at h
  split at h
  · rename_i hk
    rw [List.mem_singleton.mp h]
    exact hk
  · exact countTotalKeys_of_mem_chunkQueries h

/-- **What is fetched answers the query**, when every reply answers what it was asked. -/
theorem answers_unitedReply {o : NodeOracle} {query : RpcStorageProofsQuery}
    (hnd : (storageAddresses query).Nodup) {first : RpcStorageProof} {rest : List RpcStorageProof}
    (h : List.Forall₂ o.Answers (sentQueries query) (first :: rest)) :
    o.Answers query (unitedReply query first rest) := by
  unfold sentQueries at h
  unfold unitedReply
  split at h
  · rename_i hk
    rw [if_pos hk]
    exact (List.forall₂_cons.mp h).1
  · rename_i hk
    have hroots : first.globalRoots = o.globalRoots := by
      obtain ⟨chunk, _, hfirst, _, _⟩ := List.forall₂_cons_right_iff.mp h
      exact hfirst.roots
    rw [if_neg hk, hroots]
    exact NodeOracle.answers_mergedFrom hnd (by decide) h

/-! ### The reads and the commitment infos -/

/-- The hashes of the nodes of the storage keys that the reads read at `a`. -/
def NodeOracle.readNodes (o : NodeOracle) (reads : StateMaps) (a : ContractAddress) : Set Felt :=
  {h | ∃ key, (a, key) ∈ reads.storage.keys ∧ h ∈ o.storageNodes a.key key.key}

/-- The facts are the flattened preimages of the nodes, each under its hash. -/
def FactsOf {Keys : Type} (c : Committer Keys) (nodes : IndexMap Felt MerkleNode)
    (facts : IndexMap Felt (List Felt)) : Prop :=
  ∃ preimages, preimages.entries = nodes.entries.map (Prod.map id c.preimageFrom) ∧
    facts = c.flattenPreimages preimages

theorem factsOf_flattenNodes {Keys : Type} (c : Committer Keys)
    (nodes : IndexMap Felt MerkleNode) : FactsOf c nodes (flattenNodes c nodes) := by
  refine ⟨rpcNodesToPreimageMap c nodes, IndexMap.entries_ofList ?_, rfl⟩
  rw [List.map_map]
  exact nodes.nodupKeys

/-- The OS input `proofs` gives every contract of `reads` the node's data about it. -/
structure AlignedWith {Keys : Type} (c : Committer Keys) (o : NodeOracle) (reads : StateMaps)
    (proofs : StorageProofs) : Prop where
  classHashes_dom : ∀ a, a ∈ proofs.extendedInitialReads.classHashes.keys ↔ reads.Touches a
  nonces_dom : ∀ a, a ∈ proofs.extendedInitialReads.nonces.keys ↔ reads.Touches a
  infos_dom : ∀ a, a ∈ proofs.commitmentInfos.storageTriesCommitmentInfos.keys ↔ reads.Touches a
  classHash : ∀ a, reads.Touches a →
    proofs.extendedInitialReads.classHashes.get a = some (o.leaf a).classHash
  nonce : ∀ a, reads.Touches a →
    proofs.extendedInitialReads.nonces.get a = some (o.leaf a).nonce
  info : ∀ a, reads.Touches a →
    ∃ info, proofs.commitmentInfos.storageTriesCommitmentInfos.get a = some info ∧
      info.previousRoot = (o.leaf a).storageRoot.getD 0 ∧
      info.updatedRoot = (o.leaf a).storageRoot.getD 0 ∧
      ∃ nodes, nodes.Graph o.preimage (o.readNodes reads a) ∧
        FactsOf c nodes info.commitmentFacts
  storage : proofs.extendedInitialReads.storage = reads.storage

section Aligned

variable {Output Message BaseBlockInfo : Type} {cache : StateCache}
  (c : Committer cache.StateChangesKeys) {o : NodeOracle}
  (executionData : VirtualBlockExecutionData Output Message BaseBlockInfo)

/-- The proof of the entry of an address holds the nodes of the keys read at it. -/
theorem graph_readNodes {i : ℕ} {proof : RpcStorageProof}
    (h : o.Answers (prepareQuery cache executionData) proof)
    (hi : i < (prepareQuery cache executionData).contractAddresses.length)
    (hi' : i < proof.contractsStorageProofs.length) :
    proof.contractsStorageProofs[i].Graph o.preimage
      (o.readNodes executionData.initialReads
        (prepareQuery cache executionData).contractAddresses[i]) := by
  have hk : i < (prepareQuery cache executionData).contractStorageKeys.length := by
    rw [(aligned_prepareQuery cache executionData).length_eq]; exact hi
  have hentry := h.storage.get hk hi'
  simp only [List.get_eq_getElem] at hentry
  refine IndexMap.Graph.congr hentry fun hash => ?_
  simp only [prepareQuery, NodeOracle.storageSet, NodeOracle.readNodes, storagePairs,
    List.flatMap_cons, List.flatMap_nil, List.append_nil, List.getElem_map, Set.mem_ofPred_eq,
    List.mem_map, Prod.mk.injEq, true_and, exists_eq_right, mem_storageByAddress]
  constructor
  · rintro ⟨k, ⟨key, rfl, hmem⟩, hh⟩
    exact ⟨key, hmem, hh⟩
  · rintro ⟨key, hmem, hh⟩
    exact ⟨key.key, ⟨key, rfl, hmem⟩, hh⟩

/-- An answer to the query of an execution is turned into an aligned OS input. -/
theorem toStorageProofs_of_answers {proof : RpcStorageProof}
    (h : o.Answers (prepareQuery cache executionData) proof) :
    ∃ proofs, toStorageProofs c executionData ⟨false⟩ (prepareQuery cache executionData) proof
        = .ok proofs ∧ AlignedWith c o executionData.initialReads proofs := by
  set query := prepareQuery cache executionData with hq
  have hal : query.Aligned := aligned_prepareQuery cache executionData
  have hmem : ∀ a, a ∈ query.contractAddresses ↔ executionData.initialReads.Touches a := fun a =>
    mem_contractAddresses_prepareQuery cache executionData
  have hleaves : proof.contractsProof.contractLeavesData.length = query.contractAddresses.length :=
    by rw [h.leaves, List.length_map]
  have hproofs : proof.contractsStorageProofs.length = query.contractStorageKeys.length :=
    h.storage.length_eq.symm
  have hinfos := createCommitmentInfosWithoutStateChanges_eq c hal hleaves hproofs
  have hreads := extendedInitialReads_eq query proof executionData.initialReads
  refine ⟨⟨_, _⟩, toStorageProofs_eq_ok.mpr ⟨hleaves, hreads.symm, hinfos⟩, ?_⟩
  -- The three maps have the query's addresses as keys, and each reads at its own position.
  have hpos : ∀ a, executionData.initialReads.Touches a →
      ∃ i, ∃ (hi : i < query.contractAddresses.length)
        (hl : i < proof.contractsProof.contractLeavesData.length),
        query.contractAddresses[i] = a ∧
          proof.contractsProof.contractLeavesData[i] = o.leaf a := by
    intro a ha
    obtain ⟨i, hi, rfl⟩ := List.mem_iff_getElem.mp ((hmem a).mpr ha)
    exact ⟨i, hi, hleaves ▸ hi, rfl, by simp [h.leaves]⟩
  refine ⟨fun a => ?_, fun a => ?_, fun a => ?_, fun a ha => ?_, fun a ha => ?_, fun a ha => ?_,
    rfl⟩
  · rw [← hmem, keys_leafMap _ hal hleaves]
  · rw [← hmem, keys_leafMap _ hal hleaves]
  · rw [← hmem, keys_alignedInfos c hal hleaves hproofs]
  · obtain ⟨i, hi, hl, rfl, hleaf⟩ := hpos a ha
    rw [get_leafMap _ hal hleaves hi hl, hleaf]
  · obtain ⟨i, hi, hl, rfl, hleaf⟩ := hpos a ha
    rw [get_leafMap _ hal hleaves hi hl, hleaf]
  · obtain ⟨i, hi, hl, rfl, hleaf⟩ := hpos a ha
    have hi' : i < proof.contractsStorageProofs.length := by rw [hproofs, hal.length_eq]; exact hi
    refine ⟨_, get_alignedInfos c hal hleaves hproofs hi hl hi', ?_, ?_,
      proof.contractsStorageProofs[i], graph_readNodes executionData h hi hi',
      factsOf_flattenNodes c _⟩
    · rw [hleaf]; rfl
    · rw [hleaf]; rfl

end Aligned

/-! ### The alignment law -/

/-- **The OS input is aligned with the execution.** -/
theorem getStorageProofs_aligned {Output Message BaseBlockInfo : Type} {cache : StateCache}
    (c : Committer cache.StateChangesKeys) (o : NodeOracle) (node : ProofNode) (blockNumber : ℕ)
    (executionData : VirtualBlockExecutionData Output Message BaseBlockInfo)
    (hnode : o.Honest node blockNumber) :
    ∃ proofs log, getStorageProofs c node blockNumber executionData ⟨false⟩ [] = .ok (proofs, log) ∧
      AlignedWith c o executionData.initialReads proofs := by
  have hnd := (aligned_prepareQuery cache executionData).nodup_storageAddresses
  obtain ⟨replies, hans, hreplies⟩ := Answered.exists_of_total (P := o.Answers)
    (proofRequest blockNumber) 0 (sentQueries (prepareQuery cache executionData))
    fun i sent hsent => hnode i sent (countTotalKeys_of_mem_sentQueries hsent)
  obtain _ | ⟨first, rest⟩ := replies
  · exact absurd (List.forall₂_nil_right_iff.mp hreplies) (sentQueries_ne_nil _)
  · obtain ⟨proofs, hto, haligned⟩ :=
      toStorageProofs_of_answers c executionData (answers_unitedReply hnd hreplies)
    exact ⟨proofs, _, getStorageProofs_eq_ok.mpr ⟨first, rest, hans, hto, rfl⟩, haligned⟩

/-- Two contracts: one with two keys read, touched after one with its nonce read alone. -/
def sampleReads : StateMaps :=
  { StateMaps.default with
    nonces := .ofList [(⟨9, by decide⟩, 1)]
    storage := .ofList
      [((⟨5, by decide⟩, ⟨4, by decide⟩), 20), ((⟨5, by decide⟩, ⟨3, by decide⟩), 10)] }

/-- An execution with these reads. -/
def sampleExecution : VirtualBlockExecutionData Unit Unit Unit where
  executionOutputs := []
  initialReads := sampleReads
  stateDiff := .default
  executedClassHashes := [7]
  nodup_executedClassHashes := by decide
  l2ToL1Messages := []
  baseBlockInfo := ()

theorem getStorageProofs_aligned_sample :
    ∃ proofs log, getStorageProofs (sampleCommitter : Committer sampleCache.StateChangesKeys)
        sampleOracle.node 3 sampleExecution ⟨false⟩ [] = .ok (proofs, log) ∧
      AlignedWith (sampleCommitter : Committer sampleCache.StateChangesKeys) sampleOracle
        sampleReads proofs :=
  getStorageProofs_aligned sampleCommitter sampleOracle sampleOracle.node 3 sampleExecution
    (sampleOracle.honest_node 3)

end Snip36.StorageProofs
