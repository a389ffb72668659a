import Snip36.StorageProofs.FactsDb
import Snip36.Support.Session

/-!
# Storage proofs — the provider

`getStorageProofs` prepares a query from the data of an execution, fetches its proof from a node,
in one request or chunk by chunk, and builds the input of the OS from the answer.  The node
answers each request as it likes; the log of the session holds every request with its answer.

* `fetchProofs_eq_ok`: what is fetched is the answer to the query, when it was sent whole, and
  the merged answers to its chunks otherwise (`unitedReply`).  The merge never panics.
* `getStorageProofs_eq_ok`: what a run that ends well has checked.
-/

namespace Snip36.StorageProofs
open Support Running

/-! ### The query of an execution -/

/-- `storage_by_address`, the storage keys read at an address, in the order of the reads. -/
def storageByAddress (initialReads : StateMaps) (address : ContractAddress) : List Felt :=
  (initialReads.storage.keys.filter fun (a, _) => a = address).map fun (_, key) => key.key

/-- `prepare_query`. -/
def prepareQuery {Output Message BaseBlockInfo : Type} (cache : StateCache)
    (executionData : VirtualBlockExecutionData Output Message BaseBlockInfo) :
    RpcStorageProofsQuery :=
  let initialReads := executionData.initialReads
  let contractAddresses := (cache.getContractAddresses initialReads).insertionSort (· ≤ ·)
  { classHashes := executionData.executedClassHashes
    contractAddresses
    contractStorageKeys := contractAddresses.map fun address =>
      { contractAddress := address.key
        storageKeys := storageByAddress initialReads address } }

/-! ### Fetching -/

/-- `ConfirmedBlockId`. -/
inductive ConfirmedBlockId where
  | hash (h : Felt)
  | number (n : ℕ)
  | latest
  | l1Accepted
  deriving DecidableEq

/-- The parameters of a `get_storage_proof` request. -/
structure StorageProofRequest where
  blockId : ConfirmedBlockId
  classHashes : List Felt
  contractAddresses : List Felt
  contractStorageKeys : List ContractStorageKeys
  deriving DecidableEq

/-- A node: its answer to the `n`-th request. -/
abbrev ProofNode := ℕ → StorageProofRequest → Except String RpcStorageProof

/-- A session with a node. -/
abbrev ProofSession (α : Type) :=
  Session StorageProofRequest RpcStorageProof ProofProviderError α

/-- The request for a query at a block. -/
def proofRequest (blockNumber : ℕ) (query : RpcStorageProofsQuery) : StorageProofRequest where
  blockId := .number blockNumber
  classHashes := query.classHashes
  contractAddresses := query.contractAddresses.map (·.key)
  contractStorageKeys := query.contractStorageKeys

/-- `fetch_single_proof`. -/
def fetchSingleProof (node : ProofNode) (blockNumber : ℕ) (query : RpcStorageProofsQuery) :
    ProofSession RpcStorageProof :=
  send node .rpc (proofRequest blockNumber query)

/-- `fetch_proofs`. -/
def fetchProofs (node : ProofNode) (blockNumber : ℕ) (query : RpcStorageProofsQuery) :
    ProofSession RpcStorageProof :=
  if countTotalKeys query ≤ maxKeysPerRequest then
    fetchSingleProof node blockNumber query
  else do
    let chunks ← liftM (splitQuery query maxKeysPerRequest : Fallible ProofProviderError _)
    let proofs ← chunks.mapM fun chunk => fetchSingleProof node blockNumber chunk
    liftM (mergeStorageProofs proofs chunks query : Fallible ProofProviderError _)

/-! ### Commitment infos -/

section CommitmentInfos

variable {Keys : Type} (c : Committer Keys)

/-- `SubTreeHeight::ACTUAL_HEIGHT`. -/
def actualHeight : ℕ := 251

/-- `rpc_nodes_to_preimage_map`. -/
def rpcNodesToPreimageMap (nodes : IndexMap Felt MerkleNode) : IndexMap HashOutput c.Preimage :=
  .ofList (nodes.entries.map fun (hash, node) => (hash, c.preimageFrom node))

/-- The flattened preimages of some nodes. -/
def flattenNodes (nodes : IndexMap Felt MerkleNode) : IndexMap Felt (List Felt) :=
  c.flattenPreimages (rpcNodesToPreimageMap c nodes)

/-- A commitment info whose root does not change. -/
def unchangedCommitmentInfo (root : HashOutput) (nodes : IndexMap Felt MerkleNode) :
    CommitmentInfo where
  previousRoot := root
  updatedRoot := root
  treeHeight := actualHeight
  commitmentFacts := flattenNodes c nodes

/-- `create_commitment_infos_with_state_changes`. -/
def createCommitmentInfosWithStateChanges {cache : StateCache}
    (c : Committer cache.StateChangesKeys) (rpcProof : RpcStorageProof)
    (query : RpcStorageProofsQuery) (extendedInitialReads stateDiff : StateMaps) :
    Fallible ProofProviderError StateCommitmentInfos := do
  let factsDb ← createFactsDbFromStorageProof c rpcProof query extendedInitialReads
  let contractsTrieRootHash := rpcProof.globalRoots.contractsTreeRoot
  let classesTrieRootHash := rpcProof.globalRoots.classesTreeRoot
  let committerStateDiff := stateMapsToCommitterStateDiff cache stateDiff
  validateVirtualOsStateDiff c committerStateDiff
  let previousStateRoots : StateRoots := ⟨contractsTrieRootHash, classesTrieRootHash⟩
  let (mapStorage, newRoots) ← commitStateDiff c factsDb previousStateRoots committerStateDiff
  let infos ← orErr .blockCommitmentError
    (c.createCommitmentInfos previousStateRoots newRoots mapStorage
      (cache.keys extendedInitialReads))
  let classesRpcFacts := flattenNodes c rpcProof.classesProof
  let classesInfo := infos.classesTrieCommitmentInfo
  pure { infos with
    classesTrieCommitmentInfo := { classesInfo with
      commitmentFacts := classesInfo.commitmentFacts.extend classesRpcFacts.entries } }

/-- The error of a proof with a wrong number of storage proofs. -/
def storageProofsLengthMismatch (expected got : ℕ) : ProofProviderError :=
  .invalidProofResponse
    ("Storage proofs length mismatch: expected " ++ toString expected
      ++ " proofs for contracts with storage keys, got " ++ toString got)

/-- `addr_to_leaf`. -/
def addrToLeaf (rpcProof : RpcStorageProof) (query : RpcStorageProofsQuery) :
    IndexMap ContractAddress ContractLeafData :=
  .ofList (query.contractAddresses.zip rpcProof.contractsProof.contractLeavesData)

/-- The closure of `build_storage_commitment_infos`, at one storage entry and its proof. -/
def storageCommitmentInfo (leafOf : IndexMap ContractAddress ContractLeafData)
    (entry : ContractStorageKeys × IndexMap Felt MerkleNode) :
    Fallible ProofProviderError (ContractAddress × CommitmentInfo) := do
  let addr ← orErr
    (fun e => .invalidProofResponse ("Invalid contract address in storage keys: " ++ e))
    (PatriciaKey.tryFrom entry.1.contractAddress)
  let leaf ← okOr (leafOf.get addr) (.err (.invalidProofResponse
    ("Contract address " ++ c.debugAddress addr
      ++ " in storage_keys not found in contract_addresses")))
  pure (addr, unchangedCommitmentInfo c (leaf.storageRoot.getD 0) entry.2)

/-- `build_storage_commitment_infos`. -/
def buildStorageCommitmentInfos (rpcProof : RpcStorageProof) (query : RpcStorageProofsQuery) :
    Fallible ProofProviderError (IndexMap ContractAddress CommitmentInfo) := do
  let storageProofs := rpcProof.contractsStorageProofs
  rejectIf (storageProofs.length ≠ query.contractStorageKeys.length)
    (storageProofsLengthMismatch query.contractStorageKeys.length storageProofs.length)
  let infos ← (query.contractStorageKeys.zip storageProofs).mapM
    (storageCommitmentInfo c (addrToLeaf rpcProof query))
  pure (.ofList infos)

/-- `create_commitment_infos_without_state_changes`. -/
def createCommitmentInfosWithoutStateChanges (rpcProof : RpcStorageProof)
    (query : RpcStorageProofsQuery) : Fallible ProofProviderError StateCommitmentInfos := do
  let storageTriesCommitmentInfos ← buildStorageCommitmentInfos c rpcProof query
  pure {
    contractsTrieCommitmentInfo :=
      unchangedCommitmentInfo c rpcProof.globalRoots.contractsTreeRoot rpcProof.contractsProof.nodes
    classesTrieCommitmentInfo :=
      unchangedCommitmentInfo c rpcProof.globalRoots.classesTreeRoot rpcProof.classesProof
    storageTriesCommitmentInfos }

end CommitmentInfos

/-! ### The storage proofs of an execution -/

/-- `StorageProofConfig`. -/
structure StorageProofConfig where
  includeStateChanges : Bool

set_option linter.dupNamespace false in
/-- `StorageProofs`. -/
structure StorageProofs where
  extendedInitialReads : StateMaps
  commitmentInfos : StateCommitmentInfos

/-- The loop body of `get_storage_proofs`: the class hash and nonce of one leaf. -/
def extendWithLeaf (reads : StateMaps) (entry : ContractLeafData × ContractAddress) : StateMaps :=
  { reads with
    classHashes := reads.classHashes.insert entry.2 entry.1.classHash
    nonces := reads.nonces.insert entry.2 entry.1.nonce }

/-- `extended_initial_reads`. -/
def extendedInitialReads (rpcProof : RpcStorageProof) (query : RpcStorageProofsQuery)
    (initialReads : StateMaps) : StateMaps :=
  let reads := (rpcProof.contractsProof.contractLeavesData.zip query.contractAddresses).foldl
    extendWithLeaf .default
  { reads with storage := reads.storage.extend initialReads.storage.entries }

/-- `get_storage_proofs`, from the proof on. -/
def toStorageProofs {Output Message BaseBlockInfo : Type} {cache : StateCache}
    (c : Committer cache.StateChangesKeys)
    (executionData : VirtualBlockExecutionData Output Message BaseBlockInfo)
    (config : StorageProofConfig) (query : RpcStorageProofsQuery) (rpcProof : RpcStorageProof) :
    Fallible ProofProviderError StorageProofs := do
  let leaves := rpcProof.contractsProof.contractLeavesData
  rejectIf (leaves.length ≠ query.contractAddresses.length)
    (leavesLengthMismatch query.contractAddresses.length leaves.length)
  let extendedInitialReads := extendedInitialReads rpcProof query executionData.initialReads
  let commitmentInfos ←
    match config.includeStateChanges with
    | true =>
        createCommitmentInfosWithStateChanges c rpcProof query extendedInitialReads
          executionData.stateDiff
    | false => createCommitmentInfosWithoutStateChanges c rpcProof query
  pure ⟨extendedInitialReads, commitmentInfos⟩

/-- `get_storage_proofs`. -/
def getStorageProofs {Output Message BaseBlockInfo : Type} {cache : StateCache}
    (c : Committer cache.StateChangesKeys) (node : ProofNode) (blockNumber : ℕ)
    (executionData : VirtualBlockExecutionData Output Message BaseBlockInfo)
    (config : StorageProofConfig) : ProofSession StorageProofs := do
  let query := prepareQuery cache executionData
  let rpcProof ← fetchProofs node blockNumber query
  liftM (toStorageProofs c executionData config query rpcProof)

/-! ### Prepared queries -/

/-- The storage entries of a query stand in the order of its contract addresses, which are
distinct. -/
structure RpcStorageProofsQuery.Aligned (query : RpcStorageProofsQuery) : Prop where
  nodup : query.contractAddresses.Nodup
  addresses : storageAddresses query = query.contractAddresses.map (·.key)

namespace RpcStorageProofsQuery.Aligned

variable {query : RpcStorageProofsQuery}

theorem nodup_storageAddresses (h : query.Aligned) : (storageAddresses query).Nodup := by
  rw [h.addresses]
  exact h.nodup.map PatriciaKey.key_injective

theorem length_eq (h : query.Aligned) :
    query.contractStorageKeys.length = query.contractAddresses.length := by
  simpa [storageAddresses] using congrArg List.length h.addresses

theorem contractAddress_getElem (h : query.Aligned) {i : ℕ}
    (hi : i < query.contractStorageKeys.length) (hi' : i < query.contractAddresses.length) :
    query.contractStorageKeys[i].contractAddress = query.contractAddresses[i].key := by
  have hget := List.getElem_of_eq h.addresses (i := i) (by simpa [storageAddresses] using hi)
  simpa [storageAddresses] using hget

end RpcStorageProofsQuery.Aligned

section PrepareQuery

variable {Output Message BaseBlockInfo : Type} (cache : StateCache)
  (executionData : VirtualBlockExecutionData Output Message BaseBlockInfo)

theorem aligned_prepareQuery : (prepareQuery cache executionData).Aligned where
  nodup := (List.perm_insertionSort _ _).nodup_iff.mpr (cache.nodup_getContractAddresses _)
  addresses := by
    simp only [prepareQuery, storageAddresses, List.map_map]
    rfl

/-- The query asks for the addresses that the reads touch. -/
theorem mem_contractAddresses_prepareQuery {a : ContractAddress} :
    a ∈ (prepareQuery cache executionData).contractAddresses
      ↔ executionData.initialReads.Touches a := by
  rw [← cache.mem_getContractAddresses]
  exact List.mem_insertionSort _

/-- At an address, the query asks for the storage keys that the reads touch. -/
theorem mem_storageByAddress {initialReads : StateMaps} {a : ContractAddress} {k : Felt} :
    k ∈ storageByAddress initialReads a ↔
      ∃ key, key.key = k ∧ (a, key) ∈ initialReads.storage.keys := by
  simp only [storageByAddress, List.mem_map, List.mem_filter, decide_eq_true_eq, Prod.exists]
  constructor
  · rintro ⟨a', key, ⟨hmem, rfl⟩, rfl⟩
    exact ⟨key, rfl, hmem⟩
  · rintro ⟨key, rfl, hmem⟩
    exact ⟨a, key, ⟨hmem, rfl⟩, rfl⟩

end PrepareQuery

/-! ### What is fetched -/

/-- The queries that are sent for a query. -/
def sentQueries (query : RpcStorageProofsQuery) : List RpcStorageProofsQuery :=
  if countTotalKeys query ≤ maxKeysPerRequest then [query]
  else chunkQueries query maxKeysPerRequest

/-- The requests that are sent for a query. -/
def sentRequests (blockNumber : ℕ) (query : RpcStorageProofsQuery) : List StorageProofRequest :=
  (sentQueries query).map (proofRequest blockNumber)

/-- What the replies `first :: rest` to the sent queries come to. -/
def unitedReply (query : RpcStorageProofsQuery) (first : RpcStorageProof)
    (rest : List RpcStorageProof) : RpcStorageProof :=
  if countTotalKeys query ≤ maxKeysPerRequest then first
  else mergedFrom query (mergeInit query first.globalRoots)
    ((chunkQueries query maxKeysPerRequest).zip (first :: rest))

theorem addressesIn_chunkQueries {query chunk : RpcStorageProofsQuery} {maxKeys : ℕ}
    (h : 0 < maxKeys) (hchunk : chunk ∈ chunkQueries query maxKeys) : AddressesIn query chunk := by
  intro csk hcsk
  obtain ⟨e, he, heq⟩ := mem_addresses_of_mem_chunkQueries h hchunk hcsk
  exact List.mem_map.mpr ⟨e, he, heq⟩

theorem sentQueries_ne_nil (query : RpcStorageProofsQuery) : sentQueries query ≠ [] := by
  unfold sentQueries
  split
  · simp
  · exact chunkQueries_ne_nil (by omega) _

/-- **What is fetched**: every sent query is answered, and the replies are united. -/
theorem fetchProofs_eq_ok {node : ProofNode} {blockNumber : ℕ} {query : RpcStorageProofsQuery}
    (hnd : (storageAddresses query).Nodup) {log log' : List (StorageProofRequest × RpcStorageProof)}
    {proof : RpcStorageProof} :
    fetchProofs node blockNumber query log = .ok (proof, log') ↔
      ∃ first rest, Answered node log.length (sentRequests blockNumber query) (first :: rest) ∧
        proof = unitedReply query first rest ∧
        log' = log ++ (sentRequests blockNumber query).zip (first :: rest) := by
  by_cases hk : countTotalKeys query ≤ maxKeysPerRequest
  · have hsent : sentRequests blockNumber query = [proofRequest blockNumber query] := by
      simp [sentRequests, sentQueries, hk]
    rw [fetchProofs, if_pos hk, fetchSingleProof, Session.send_eq_ok, hsent]
    constructor
    · rintro ⟨hs, rfl⟩
      exact ⟨proof, [], .cons hs (.nil _), by simp [unitedReply, hk], rfl⟩
    · rintro ⟨first, rest, hans, rfl, rfl⟩
      cases hans with
      | cons hs ht =>
          cases ht
          simp only [unitedReply, hk, if_true]
          exact ⟨hs, rfl⟩
  · have hpos : 0 < maxKeysPerRequest := by decide
    have hsent : sentRequests blockNumber query
        = (chunkQueries query maxKeysPerRequest).map (proofRequest blockNumber) := by
      simp [sentRequests, sentQueries, hk]
    have hmerge : ∀ (first : RpcStorageProof) (rest : List RpcStorageProof),
        (first :: rest).length = (chunkQueries query maxKeysPerRequest).length →
        (mergeStorageProofs (first :: rest) (chunkQueries query maxKeysPerRequest) query
          : Fallible ProofProviderError _) = .ok (unitedReply query first rest) := by
      intro first rest hlen
      rw [mergeStorageProofs_eq hnd (fun chunk hc => addressesIn_chunkQueries hpos hc) hlen]
      simp only [unitedReply, hk, if_false]
    rw [fetchProofs, if_neg hk, Session.bind_eq_ok, hsent]
    constructor
    · rintro ⟨queries, log₁, hlift, hloop⟩
      obtain ⟨hsplit, rfl⟩ := Session.lift_eq_ok.mp hlift
      obtain rfl := Except.ok.inj ((splitQuery_eq query hpos).symm.trans hsplit)
      obtain ⟨replies, log₂, hrun, hunite⟩ := Session.bind_eq_ok.mp hloop
      obtain ⟨hans, rfl⟩ := (Session.mapM_send_eq_ok (proofRequest blockNumber)).mp hrun
      obtain ⟨hm, rfl⟩ := Session.lift_eq_ok.mp hunite
      have hlen : replies.length = (chunkQueries query maxKeysPerRequest).length := by
        simpa using hans.length_eq
      obtain _ | ⟨first, rest⟩ := replies
      · have hkeys : 0 < countTotalKeys query := by omega
        exact absurd (List.length_eq_zero_iff.mp hlen.symm) (chunkQueries_ne_nil hkeys _)
      · rw [hmerge first rest hlen] at hm
        exact ⟨first, rest, hans, (Except.ok.inj hm).symm, rfl⟩
    · rintro ⟨first, rest, hans, rfl, rfl⟩
      have hlen : (first :: rest).length = (chunkQueries query maxKeysPerRequest).length := by
        simpa using hans.length_eq
      refine ⟨_, log, Session.lift_eq_ok.mpr ⟨splitQuery_eq query hpos, rfl⟩, ?_⟩
      refine Session.bind_eq_ok.mpr ⟨first :: rest, _,
        (Session.mapM_send_eq_ok (proofRequest blockNumber)).mpr ⟨hans, rfl⟩, ?_⟩
      exact Session.lift_eq_ok.mpr ⟨hmerge first rest hlen, rfl⟩

/-- **What a run that ends well comes from**: an answer to every sent request, whose union passes
the provider's checks. -/
theorem getStorageProofs_eq_ok {Output Message BaseBlockInfo : Type} {cache : StateCache}
    {c : Committer cache.StateChangesKeys} {node : ProofNode} {blockNumber : ℕ}
    {executionData : VirtualBlockExecutionData Output Message BaseBlockInfo}
    {config : StorageProofConfig} {log log' : List (StorageProofRequest × RpcStorageProof)}
    {proofs : StorageProofs} :
    getStorageProofs c node blockNumber executionData config log = .ok (proofs, log') ↔
      ∃ first rest,
        Answered node log.length (sentRequests blockNumber (prepareQuery cache executionData))
          (first :: rest) ∧
        toStorageProofs c executionData config (prepareQuery cache executionData)
          (unitedReply (prepareQuery cache executionData) first rest) = .ok proofs ∧
        log' = log
          ++ (sentRequests blockNumber (prepareQuery cache executionData)).zip (first :: rest) := by
  have hnd := (aligned_prepareQuery cache executionData).nodup_storageAddresses
  rw [getStorageProofs, Session.bind_eq_ok]
  constructor
  · rintro ⟨proof, log₁, hfetch, h⟩
    obtain ⟨first, rest, hans, rfl, rfl⟩ := (fetchProofs_eq_ok hnd).mp hfetch
    obtain ⟨hto, rfl⟩ := Session.lift_eq_ok.mp h
    exact ⟨first, rest, hans, hto, rfl⟩
  · rintro ⟨first, rest, hans, hto, rfl⟩
    exact ⟨_, _, (fetchProofs_eq_ok hnd).mpr ⟨first, rest, hans, rfl, rfl⟩,
      Session.lift_eq_ok.mpr ⟨hto, rfl⟩⟩

/-! ### What is built -/

section Build

variable {Keys : Type} (c : Committer Keys) {query : RpcStorageProofsQuery}
  {rpcProof : RpcStorageProof}

/-- The storage commitment infos of a well shaped proof: position by position, an address with
its own leaf and its own nodes. -/
def alignedInfos (query : RpcStorageProofsQuery) (rpcProof : RpcStorageProof) :
    List (ContractAddress × CommitmentInfo) :=
  (query.contractAddresses.zip
      (rpcProof.contractsProof.contractLeavesData.zip rpcProof.contractsStorageProofs)).map
    fun (a, leaf, nodes) => (a, unchangedCommitmentInfo c (leaf.storageRoot.getD 0) nodes)

theorem map_fst_alignedInfos (h : query.Aligned)
    (hleaves : rpcProof.contractsProof.contractLeavesData.length = query.contractAddresses.length)
    (hproofs : rpcProof.contractsStorageProofs.length = query.contractStorageKeys.length) :
    (alignedInfos c query rpcProof).map Prod.fst = query.contractAddresses := by
  have hlen := h.length_eq
  rw [alignedInfos, List.map_map]
  exact List.map_fst_zip (by rw [List.length_zip]; omega)

/-- The storage commitment infos are about the query's addresses. -/
theorem keys_alignedInfos (h : query.Aligned)
    (hleaves : rpcProof.contractsProof.contractLeavesData.length = query.contractAddresses.length)
    (hproofs : rpcProof.contractsStorageProofs.length = query.contractStorageKeys.length) :
    (IndexMap.ofList (alignedInfos c query rpcProof)).keys = query.contractAddresses := by
  have hfst := map_fst_alignedInfos c h hleaves hproofs
  rw [IndexMap.keys, IndexMap.entries_ofList (hfst ▸ h.nodup), hfst]

/-- At distinct addresses, an address has the commitment info of its own position. -/
theorem get_alignedInfos (h : query.Aligned)
    (hleaves : rpcProof.contractsProof.contractLeavesData.length = query.contractAddresses.length)
    (hproofs : rpcProof.contractsStorageProofs.length = query.contractStorageKeys.length)
    {i : ℕ} (hi : i < query.contractAddresses.length)
    (hleaf : i < rpcProof.contractsProof.contractLeavesData.length)
    (hproof : i < rpcProof.contractsStorageProofs.length) :
    (IndexMap.ofList (alignedInfos c query rpcProof)).get query.contractAddresses[i]
      = some (unchangedCommitmentInfo c
          (rpcProof.contractsProof.contractLeavesData[i].storageRoot.getD 0)
          rpcProof.contractsStorageProofs[i]) := by
  have hkeys : ((alignedInfos c query rpcProof).map Prod.fst).Nodup :=
    map_fst_alignedInfos c h hleaves hproofs ▸ h.nodup
  refine (IndexMap.get_ofList_iff hkeys).mpr (List.mem_iff_getElem.mpr ⟨i, ?_, ?_⟩)
  · simp [alignedInfos, hi, hleaf, hproof]
  · simp [alignedInfos]

/-- At distinct addresses, an address reads the leaf at its own position. -/
theorem get_addrToLeaf (h : query.Aligned)
    (hleaves : rpcProof.contractsProof.contractLeavesData.length = query.contractAddresses.length)
    {i : ℕ} (hi : i < query.contractAddresses.length)
    (hi' : i < rpcProof.contractsProof.contractLeavesData.length) :
    (addrToLeaf rpcProof query).get query.contractAddresses[i]
      = some rpcProof.contractsProof.contractLeavesData[i] := by
  have hkeys : ((query.contractAddresses.zip rpcProof.contractsProof.contractLeavesData).map
      Prod.fst).Nodup := by
    rw [List.map_fst_zip hleaves.ge]
    exact h.nodup
  refine (IndexMap.get_ofList_iff hkeys).mpr (List.mem_iff_getElem.mpr ⟨i, ?_, ?_⟩)
  · simp [hi, hi']
  · simp

/-- **Four parallel lists in step.**  When every length is right, the storage commitment infos
are those of each address's own leaf and nodes. -/
theorem buildStorageCommitmentInfos_eq (h : query.Aligned)
    (hleaves : rpcProof.contractsProof.contractLeavesData.length = query.contractAddresses.length)
    (hproofs : rpcProof.contractsStorageProofs.length = query.contractStorageKeys.length) :
    buildStorageCommitmentInfos c rpcProof query
      = .ok (.ofList (alignedInfos c query rpcProof)) := by
  have hinfos : (query.contractStorageKeys.zip rpcProof.contractsStorageProofs).mapM
      (storageCommitmentInfo c (addrToLeaf rpcProof query))
        = .ok (alignedInfos c query rpcProof) := by
    have hlen := h.length_eq
    refine mapM_eq_ok.mpr (List.forall₂_iff_get.mpr ⟨?_, fun i hi hi' => ?_⟩)
    · simp [alignedInfos, hleaves, hproofs, hlen]
    · have hk : i < query.contractStorageKeys.length := by simp at hi; omega
      have ha : i < query.contractAddresses.length := hlen ▸ hk
      have hl : i < rpcProof.contractsProof.contractLeavesData.length := by omega
      have haddr := h.contractAddress_getElem hk ha
      simp [storageCommitmentInfo, alignedInfos, haddr, get_addrToLeaf h hleaves ha hl, orErr, okOr,
        Except.mapError, bind, Except.bind, pure, Except.pure]
  rw [buildStorageCommitmentInfos, check_bind_eq_ok, rejectIf_eq_ok, not_not]
  exact ⟨hproofs, bind_eq_ok.mpr ⟨_, hinfos, rfl⟩⟩

/-- The maps that the leaves are inserted into. -/
theorem foldl_extendWithLeaf (entries : List (ContractLeafData × ContractAddress))
    (reads : StateMaps) :
    entries.foldl extendWithLeaf reads =
      { reads with
        classHashes := reads.classHashes.extend (entries.map fun e => (e.2, e.1.classHash))
        nonces := reads.nonces.extend (entries.map fun e => (e.2, e.1.nonce)) } := by
  induction entries generalizing reads with
  | nil => rfl
  | cons e entries ih =>
      rw [List.foldl_cons, ih]
      rfl

/-- The reads: one class hash and one nonce for each address, and the storage as it was read. -/
theorem extendedInitialReads_eq (query : RpcStorageProofsQuery) (rpcProof : RpcStorageProof)
    (initialReads : StateMaps) :
    extendedInitialReads rpcProof query initialReads =
      { StateMaps.default with
        classHashes := .ofList ((rpcProof.contractsProof.contractLeavesData.zip
          query.contractAddresses).map fun e => (e.2, e.1.classHash))
        nonces := .ofList ((rpcProof.contractsProof.contractLeavesData.zip
          query.contractAddresses).map fun e => (e.2, e.1.nonce))
        storage := initialReads.storage } := by
  have hstorage : StateMaps.default.storage.extend initialReads.storage.entries
      = initialReads.storage :=
    IndexMap.ofList_entries initialReads.storage
  rw [extendedInitialReads, foldl_extendWithLeaf, hstorage]
  rfl

section LeafMap

variable {ν : Type} (f : ContractLeafData → ν)

theorem map_fst_leafMap
    (hleaves : rpcProof.contractsProof.contractLeavesData.length = query.contractAddresses.length) :
    ((rpcProof.contractsProof.contractLeavesData.zip query.contractAddresses).map
      fun e => (e.2, f e.1)).map Prod.fst = query.contractAddresses := by
  rw [List.map_map]
  exact List.map_snd_zip hleaves.ge

theorem keys_leafMap (h : query.Aligned)
    (hleaves : rpcProof.contractsProof.contractLeavesData.length = query.contractAddresses.length) :
    (IndexMap.ofList ((rpcProof.contractsProof.contractLeavesData.zip
      query.contractAddresses).map fun e => (e.2, f e.1))).keys = query.contractAddresses := by
  have hfst := map_fst_leafMap f hleaves
  rw [IndexMap.keys, IndexMap.entries_ofList (by rw [hfst]; exact h.nodup), hfst]

/-- At distinct addresses, an address reads from the leaf of its own position. -/
theorem get_leafMap (h : query.Aligned)
    (hleaves : rpcProof.contractsProof.contractLeavesData.length = query.contractAddresses.length)
    {i : ℕ} (hi : i < query.contractAddresses.length)
    (hleaf : i < rpcProof.contractsProof.contractLeavesData.length) :
    (IndexMap.ofList ((rpcProof.contractsProof.contractLeavesData.zip
        query.contractAddresses).map fun e => (e.2, f e.1))).get query.contractAddresses[i]
      = some (f rpcProof.contractsProof.contractLeavesData[i]) := by
  have hkeys : (((rpcProof.contractsProof.contractLeavesData.zip query.contractAddresses).map
      fun e => (e.2, f e.1)).map Prod.fst).Nodup := by
    rw [map_fst_leafMap f hleaves]
    exact h.nodup
  refine (IndexMap.get_ofList_iff hkeys).mpr (List.mem_iff_getElem.mpr ⟨i, ?_, ?_⟩)
  · simp [hi, hleaf]
  · simp

end LeafMap

/-- The checks of a proof, and what is built when they pass. -/
theorem toStorageProofs_eq_ok {Output Message BaseBlockInfo : Type} {cache : StateCache}
    {c : Committer cache.StateChangesKeys}
    {executionData : VirtualBlockExecutionData Output Message BaseBlockInfo}
    {config : StorageProofConfig} {proofs : StorageProofs} :
    toStorageProofs c executionData config query rpcProof = .ok proofs ↔
      rpcProof.contractsProof.contractLeavesData.length = query.contractAddresses.length ∧
        proofs.extendedInitialReads
          = extendedInitialReads rpcProof query executionData.initialReads ∧
        (if config.includeStateChanges then
            createCommitmentInfosWithStateChanges c rpcProof query
              (extendedInitialReads rpcProof query executionData.initialReads)
              executionData.stateDiff
          else createCommitmentInfosWithoutStateChanges c rpcProof query)
            = .ok proofs.commitmentInfos := by
  obtain ⟨state⟩ := config
  rw [toStorageProofs, check_bind_eq_ok, rejectIf_eq_ok, not_not]
  refine and_congr_right fun _ => ?_
  obtain ⟨reads, infos⟩ := proofs
  cases state <;>
  · rw [bind_eq_ok]
    constructor
    · rintro ⟨infos', hinfos, hpure⟩
      obtain ⟨rfl, rfl⟩ := StorageProofs.mk.inj (pure_eq_ok.mp hpure)
      exact ⟨rfl, hinfos⟩
    · rintro ⟨rfl, hinfos⟩
      exact ⟨infos, hinfos, rfl⟩

/-- Without state changes, a proof with the right lengths passes. -/
theorem createCommitmentInfosWithoutStateChanges_eq (h : query.Aligned)
    (hleaves : rpcProof.contractsProof.contractLeavesData.length = query.contractAddresses.length)
    (hproofs : rpcProof.contractsStorageProofs.length = query.contractStorageKeys.length) :
    createCommitmentInfosWithoutStateChanges c rpcProof query = .ok
      { contractsTrieCommitmentInfo := unchangedCommitmentInfo c
          rpcProof.globalRoots.contractsTreeRoot rpcProof.contractsProof.nodes
        classesTrieCommitmentInfo := unchangedCommitmentInfo c
          rpcProof.globalRoots.classesTreeRoot rpcProof.classesProof
        storageTriesCommitmentInfos := .ofList (alignedInfos c query rpcProof) } :=
  bind_eq_ok.mpr ⟨_, buildStorageCommitmentInfos_eq c h hleaves hproofs, rfl⟩

/-- Without state changes, only a proof with the right number of storage proofs passes. -/
theorem length_of_createCommitmentInfosWithoutStateChanges {infos : StateCommitmentInfos}
    (h : createCommitmentInfosWithoutStateChanges c rpcProof query = .ok infos) :
    rpcProof.contractsStorageProofs.length = query.contractStorageKeys.length := by
  obtain ⟨storage, hstorage, -⟩ := bind_eq_ok.mp h
  rw [buildStorageCommitmentInfos, check_bind_eq_ok, rejectIf_eq_ok, not_not] at hstorage
  exact hstorage.1

/-- **What is accepted.**  The number of leaves is always checked.  The number of storage proofs
is checked without state changes; with them the committer decides. -/
theorem toStorageProofs_isOk_iff {Output Message BaseBlockInfo : Type} {cache : StateCache}
    (c : Committer cache.StateChangesKeys)
    {executionData : VirtualBlockExecutionData Output Message BaseBlockInfo}
    {config : StorageProofConfig} (h : query.Aligned) :
    (∃ proofs, toStorageProofs c executionData config query rpcProof = .ok proofs) ↔
      rpcProof.contractsProof.contractLeavesData.length = query.contractAddresses.length ∧
        if config.includeStateChanges then
          ∃ infos, createCommitmentInfosWithStateChanges c rpcProof query
            (extendedInitialReads rpcProof query executionData.initialReads)
            executionData.stateDiff = .ok infos
        else rpcProof.contractsStorageProofs.length = query.contractStorageKeys.length := by
  simp only [toStorageProofs_eq_ok, exists_and_left]
  obtain ⟨state⟩ := config
  cases state with
  | true =>
      simp only [if_true]
      constructor
      · rintro ⟨hleaves, proofs, -, hinfos⟩
        exact ⟨hleaves, _, hinfos⟩
      · rintro ⟨hleaves, infos, hinfos⟩
        exact ⟨hleaves, ⟨_, infos⟩, rfl, hinfos⟩
  | false =>
      simp only [Bool.false_eq_true, if_false]
      constructor
      · rintro ⟨hleaves, proofs, -, hinfos⟩
        exact ⟨hleaves, length_of_createCommitmentInfosWithoutStateChanges c hinfos⟩
      · rintro ⟨hleaves, hproofs⟩
        exact ⟨hleaves, ⟨_, _⟩, rfl,
          createCommitmentInfosWithoutStateChanges_eq c h hleaves hproofs⟩

end Build

/-! ### A small committer -/

/-- A state cache that lists the touched addresses. -/
def sampleCache : StateCache where
  StateChangesKeys := List (ContractAddress × StorageKey)
  keys m := m.storage.keys
  storageDiff storage :=
    storage.entries.foldl (fun diff ((address, key), value) =>
      diff.insert address (((diff.get address).getD .empty).insert key value)) .empty
  getContractAddresses m :=
    (m.storage.keys.map Prod.fst ++ m.nonces.keys ++ m.classHashes.keys).dedup
  nodup_getContractAddresses m := List.nodup_dedup _
  mem_getContractAddresses m a := by
    simp [StateMaps.Touches]

/-- The felts of a node. -/
def MerkleNode.felts : MerkleNode → List Felt
  | .binaryNode left right => [left, right]
  | .edgeNode path length child => [Fin.ofNat feltPrime length, path, child]

/-- A committer that has no tries to commit to. -/
def sampleCommitter {Keys : Type} : Committer Keys where
  Preimage := MerkleNode
  preimageFrom := id
  flattenPreimages m := .ofList (m.entries.map fun (hash, node) => (hash, node.felts))
  DbKey := Felt
  DbValue := NodeData
  innerNodeKey := id
  getDbKey _ _ hash := hash
  filledNodeFrom hash node := ⟨hash, match node with
    | .binaryNode left right => .binary left right
    | .edgeNode path length child => .edge child path length⟩
  serialize node := .ok node.data
  computeLeafHash
    | .contractState state => state.classHash
    | .storageValue value => value
    | .compiledClassHash hash => hash
  FilledForest := StateRoots
  commitBlock _ _ _ := .error "no tries"
  write _ _ := .error "no tries"
  getContractRootHash := StateRoots.contractsTrieRootHash
  getCompiledClassRootHash := StateRoots.classesTrieRootHash
  createCommitmentInfos _ _ _ _ := .error "no tries"
  debugAddress a := toString a.key.val
  debugStorageKey k := toString k.key.val
  debugClassHashes _ := ""
  debugCompiledClassHashes _ := ""

end Snip36.StorageProofs
