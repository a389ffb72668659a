import Snip36.Running.State
import Snip36.StorageProofs.Merge

/-!
# Storage proofs — the facts database

`committer_utils.rs` fills a database with the nodes and leaves of a storage proof, converts the
state diff of an execution to the committer's and has the committer apply it.  The committer, the
Patricia crates and their storage are a parameter (`Committer`): the keys and the serialization
of nodes, the commitment of a block and the commitment infos it yields.

`validate_eq_ok_iff`: a state diff is accepted exactly when it declares nothing, deploys nothing
and deletes nothing.
-/

namespace Snip36.StorageProofs
open Support Running

/-! ### What the committer is given and gives back -/

/-- `ProofProviderError`. -/
inductive ProofProviderError where
  | invalidStateDiff (msg : String)
  | rpc (msg : String)
  | serializationError (msg : String)
  | invalidProofResponse (msg : String)
  | blockCommitmentError (msg : String)
  deriving DecidableEq

/-- `StateRoots`. -/
structure StateRoots where
  contractsTrieRootHash : HashOutput
  classesTrieRootHash : HashOutput
  deriving DecidableEq

/-- `StateDiff` of the committer. -/
structure StateDiff where
  addressToClassHash : IndexMap ContractAddress ClassHash
  addressToNonce : IndexMap ContractAddress Nonce
  classHashToCompiledClassHash : IndexMap ClassHash CompiledClassHash
  storageUpdates : IndexMap ContractAddress (IndexMap StorageKey Felt)

/-- `CommitmentInfo`. -/
structure CommitmentInfo where
  previousRoot : HashOutput
  updatedRoot : HashOutput
  treeHeight : ℕ
  commitmentFacts : IndexMap Felt (List Felt)

/-- `StateCommitmentInfos`. -/
structure StateCommitmentInfos where
  contractsTrieCommitmentInfo : CommitmentInfo
  classesTrieCommitmentInfo : CommitmentInfo
  storageTriesCommitmentInfos : IndexMap ContractAddress CommitmentInfo

/-- `ContractState`. -/
structure ContractState where
  nonce : Nonce
  classHash : ClassHash
  storageRootHash : HashOutput

/-- The leaves of the three tries. -/
inductive Leaf where
  | contractState (state : ContractState)
  | storageValue (value : Felt)
  | compiledClassHash (hash : CompiledClassHash)

/-- What the key of a leaf depends on beside its hash. -/
inductive KeyContext where
  | emptyKeyContext
  | contractAddress (address : ContractAddress)

/-- `NodeData`. -/
inductive NodeData where
  | binary (leftData rightData : HashOutput)
  | edge (bottomData : HashOutput) (path : Felt) (length : ℕ)
  | leaf (l : Leaf)

/-- `FilledNode`. -/
structure FilledNode where
  hash : HashOutput
  data : NodeData

/-- The committer and the Patricia crates, over the state cache's keys. -/
structure Committer (Keys : Type) where
  Preimage : Type
  /-- `Preimage::from`. -/
  preimageFrom : MerkleNode → Preimage
  /-- `flatten_preimages`. -/
  flattenPreimages : IndexMap HashOutput Preimage → IndexMap Felt (List Felt)
  DbKey : Type
  DbValue : Type
  [decEqDbKey : DecidableEq DbKey]
  /-- `create_db_key` at the prefix of inner nodes. -/
  innerNodeKey : Felt → DbKey
  /-- `FactDbFilledNode::get_db_key`. -/
  getDbKey : FilledNode → KeyContext → Felt → DbKey
  /-- `FactDbFilledNode::from`. -/
  filledNodeFrom : HashOutput → MerkleNode → FilledNode
  /-- `FactDbFilledNode::serialize`. -/
  serialize : FilledNode → Except String DbValue
  /-- `TreeHashFunctionImpl::compute_leaf_hash`. -/
  computeLeafHash : Leaf → HashOutput
  FilledForest : Type
  /-- `CommitBlockImpl::commit_block`. -/
  commitBlock : StateDiff → StateRoots → IndexMap DbKey DbValue → Except String FilledForest
  /-- `FactsDb::write`. -/
  write : IndexMap DbKey DbValue → FilledForest → Except String (IndexMap DbKey DbValue)
  getContractRootHash : FilledForest → HashOutput
  getCompiledClassRootHash : FilledForest → HashOutput
  /-- `create_commitment_infos`. -/
  createCommitmentInfos :
    StateRoots → StateRoots → IndexMap DbKey DbValue → Keys → Except String StateCommitmentInfos
  /-- The `Debug` texts of the data that error messages show. -/
  debugAddress : ContractAddress → String
  debugStorageKey : StorageKey → String
  debugClassHashes : IndexMap ContractAddress ClassHash → String
  debugCompiledClassHashes : IndexMap ClassHash CompiledClassHash → String

namespace Committer

variable {Keys : Type} (c : Committer Keys)

instance : DecidableEq c.DbKey := c.decEqDbKey

/-- `DbHashMap`. -/
abbrev DbHashMap := IndexMap c.DbKey c.DbValue

end Committer

/-! ### State diffs -/

/-- `state_maps_to_committer_state_diff`. -/
def stateMapsToCommitterStateDiff (cache : StateCache) (stateMaps : StateMaps) : StateDiff where
  addressToClassHash := stateMaps.classHashes
  addressToNonce := stateMaps.nonces
  classHashToCompiledClassHash := stateMaps.compiledClassHashes
  storageUpdates := cache.storageDiff stateMaps.storage

/-- `validate_virtual_os_state_diff`. -/
def validateVirtualOsStateDiff {Keys : Type} (c : Committer Keys) (stateDiff : StateDiff) :
    Fallible ProofProviderError Unit := do
  stateDiff.storageUpdates.entries.forM fun (address, storageDiffs) =>
    storageDiffs.entries.forM fun (key, value) =>
      rejectIf (value = 0) (.invalidStateDiff
        ("Storage deletion not allowed: try to delete storage at address "
          ++ c.debugAddress address ++ ", key " ++ c.debugStorageKey key))
  rejectIf (stateDiff.addressToClassHash.entries ≠ []) (.invalidStateDiff
    ("Contract deployments not allowed: try to deploy contracts(address to class hash): "
      ++ c.debugClassHashes stateDiff.addressToClassHash))
  rejectIf (stateDiff.classHashToCompiledClassHash.entries ≠ []) (.invalidStateDiff
    ("Contract declarations not allowed: try to declare classes(class hash to compiled "
      ++ "class hash): " ++ c.debugCompiledClassHashes stateDiff.classHashToCompiledClassHash))

/-- **The diffs a virtual block may have**: no deletion, no deployment, no declaration. -/
theorem validate_eq_ok_iff {Keys : Type} (c : Committer Keys) (stateDiff : StateDiff) :
    validateVirtualOsStateDiff c stateDiff = .ok () ↔
      (∀ e ∈ stateDiff.storageUpdates.entries, ∀ u ∈ e.2.entries, u.2 ≠ 0) ∧
        stateDiff.addressToClassHash.entries = [] ∧
        stateDiff.classHashToCompiledClassHash.entries = [] := by
  rw [validateVirtualOsStateDiff, check_bind_eq_ok, check_bind_eq_ok, rejectIf_eq_ok,
    rejectIf_eq_ok, not_not, not_not, forM_eq_ok]
  refine and_congr_left fun _ => forall₂_congr fun e _ => ?_
  exact forM_eq_ok.trans (forall₂_congr fun u _ => rejectIf_eq_ok)

/-! ### The database -/

section Database

variable {Keys : Type} (c : Committer Keys)

/-- `insert_inner_nodes`. -/
def insertInnerNodes (dbMap : c.DbHashMap) (nodes : IndexMap Felt MerkleNode) :
    Fallible ProofProviderError c.DbHashMap :=
  nodes.entries.foldlM (fun dbMap (hash, node) => do
    let value ← orErr .serializationError (c.serialize (c.filledNodeFrom hash node))
    pure (dbMap.insert (c.innerNodeKey hash) value)) dbMap

/-- `insert_leaf_node`. -/
def insertLeafNode (dbMap : c.DbHashMap) (leafHash : HashOutput) (leaf : Leaf)
    (keyContext : KeyContext) : Fallible ProofProviderError c.DbHashMap := do
  let filledNode : FilledNode := ⟨leafHash, .leaf leaf⟩
  let key := c.getDbKey filledNode keyContext leafHash
  let serialized ← orErr .serializationError (c.serialize filledNode)
  pure (dbMap.insert key serialized)

/-- The error of a proof with a wrong number of leaves. -/
def leavesLengthMismatch (addressesLen leavesLen : ℕ) : ProofProviderError :=
  .invalidProofResponse
    ("Contract leaves length mismatch: expected " ++ toString addressesLen
      ++ " leaves for requested contracts, got " ++ toString leavesLen)

/-- `insert_contract_leaves`. -/
def insertContractLeaves (dbMap : c.DbHashMap) (rpcProof : RpcStorageProof)
    (query : RpcStorageProofsQuery) : Fallible ProofProviderError c.DbHashMap := do
  let leaves := rpcProof.contractsProof.contractLeavesData
  rejectIf (leaves.length ≠ query.contractAddresses.length)
    (leavesLengthMismatch query.contractAddresses.length leaves.length)
  (leaves.zip query.contractAddresses).foldlM (fun dbMap (leaf, _) =>
    let contractState := .contractState
      { nonce := leaf.nonce
        classHash := leaf.classHash
        storageRootHash := leaf.storageRoot.getD 0 }
    insertLeafNode c dbMap (c.computeLeafHash contractState) contractState .emptyKeyContext) dbMap

/-- `insert_storage_leaves`. -/
def insertStorageLeaves (dbMap : c.DbHashMap) (initialReads : StateMaps) :
    Fallible ProofProviderError c.DbHashMap :=
  initialReads.storage.entries.foldlM (fun dbMap ((address, _), value) =>
    insertLeafNode c dbMap (c.computeLeafHash (.storageValue value)) (.storageValue value)
      (.contractAddress address)) dbMap

/-- `insert_compiled_class_leaves`. -/
def insertCompiledClassLeaves (dbMap : c.DbHashMap) (initialReads : StateMaps) :
    Fallible ProofProviderError c.DbHashMap :=
  initialReads.compiledClassHashes.entries.foldlM (fun dbMap (_, hash) =>
    insertLeafNode c dbMap (c.computeLeafHash (.compiledClassHash hash)) (.compiledClassHash hash)
      .emptyKeyContext) dbMap

/-- `add_dummy_node_for_orphan_child`. -/
def addDummyNodeForOrphanChild (nodes : IndexMap Felt MerkleNode) (dummyValue : c.DbValue)
    (dbMap : c.DbHashMap) (childHash : Felt) : c.DbHashMap :=
  if childHash ∈ nodes.keys then dbMap
  else dbMap.insertIfAbsent (c.innerNodeKey childHash) dummyValue

/-- The child hashes of a node. -/
def MerkleNode.children : MerkleNode → List Felt
  | .binaryNode left right => [left, right]
  | .edgeNode _ _ child => [child]

/-- `add_dummy_nodes_for_orphan_hashes`. -/
def addDummyNodesForOrphanHashes (dbMap : c.DbHashMap) (nodes : IndexMap Felt MerkleNode) :
    Fallible ProofProviderError c.DbHashMap := do
  let dummyValue ← orErr .serializationError (c.serialize ⟨0, .binary 0 0⟩)
  pure ((nodes.entries.flatMap fun (_, node) => node.children).foldl
    (addDummyNodeForOrphanChild c nodes dummyValue) dbMap)

/-- `create_facts_db_from_storage_proof`. -/
def createFactsDbFromStorageProof (rpcProof : RpcStorageProof) (query : RpcStorageProofsQuery)
    (initialReads : StateMaps) : Fallible ProofProviderError c.DbHashMap := do
  let dbMap ← insertInnerNodes c .empty rpcProof.contractsProof.nodes
  let dbMap ← insertInnerNodes c dbMap rpcProof.classesProof
  let dbMap ← rpcProof.contractsStorageProofs.foldlM (insertInnerNodes c) dbMap
  let dbMap ← insertContractLeaves c dbMap rpcProof query
  let dbMap ← insertStorageLeaves c dbMap initialReads
  let dbMap ← insertCompiledClassLeaves c dbMap initialReads
  let dbMap ← addDummyNodesForOrphanHashes c dbMap rpcProof.contractsProof.nodes
  let dbMap ← addDummyNodesForOrphanHashes c dbMap rpcProof.classesProof
  rpcProof.contractsStorageProofs.foldlM (addDummyNodesForOrphanHashes c) dbMap

/-- `commit_state_diff`, with the database it leaves. -/
def commitStateDiff (factsDb : c.DbHashMap) (roots : StateRoots) (stateDiff : StateDiff) :
    Fallible ProofProviderError (c.DbHashMap × StateRoots) := do
  let filledForest ← orErr .blockCommitmentError (c.commitBlock stateDiff roots factsDb)
  let factsDb ← orErr .serializationError (c.write factsDb filledForest)
  pure (factsDb, ⟨c.getContractRootHash filledForest, c.getCompiledClassRootHash filledForest⟩)

end Database

end Snip36.StorageProofs
