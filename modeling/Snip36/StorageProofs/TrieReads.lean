import Snip36.StorageProofs.Alignment
import Snip36.StorageProofs.FactsDbClosure
import Snip36.Support.PatriciaTrie

/-!
# Storage proofs — every read can be looked up

What the proofs of a query are for: from the root of a trie, the keys that an execution read are
looked up in what the runner keeps of the answers, without the node.  The node here is a forest of
Patricia tries (`TrieForest`), which gives every key the nodes on its way.

* `infos_look_up_reads`: in the OS input without state changes, the nodes given with each root are
  enough for the reads below it.
* `factsDb_looks_up_reads`: in the facts database, every key read at a contract, every contract
  and every executed class is found below its root, however many requests the query took.  Every
  hash on the way has the entry of its own node, so that the dummies at the siblings are never on
  it; the leaf of a contract or of a storage value that is found is there.
-/

namespace Snip36.StorageProofs
open Support Running

/-! ### Nodes of tries -/

/-- The way of a key down a trie. -/
def keyBits (key : Felt) : List Bool := lowBits actualHeight key.val

/-- A node as a node of a trie. -/
def MerkleNode.view : MerkleNode → TrieNode Felt
  | .binaryNode left right => .binary left right
  | .edgeNode path length child => .edge (lowBits length path.val) child

/-- A node of a trie as it is sent. -/
def merkleNodeOf : TrieNode Felt → MerkleNode
  | .binary left right => .binaryNode left right
  | .edge path bottom => .edgeNode (Felt.ofNat (bitsNat path)) path.length bottom

theorem length_keyBits (key : Felt) : (keyBits key).length = actualHeight := length_lowBits _ _

/-- A node of a trie is sent as it is. -/
theorem view_merkleNodeOf {t : Trie Felt actualHeight} {key : List Bool}
    {e : Felt × TrieNode Felt} (h : e ∈ t.nodesOn key) : (merkleNodeOf e.2).view = e.2 := by
  obtain ⟨hash, node⟩ := e
  cases node with
  | binary left right => rfl
  | edge path bottom =>
      have hlen : path.length ≤ actualHeight := Trie.length_le_of_edge_mem_nodesOn h
      have hlt : bitsNat path < feltPrime :=
        (bitsNat_lt path).trans_le ((Nat.pow_le_pow_right (by norm_num) hlen).trans
          (by norm_num [actualHeight, feltPrime]))
      rw [merkleNodeOf, MerkleNode.view, Felt.val_ofNat hlt, lowBits_bitsNat]

/-! ### The forest of a block -/

/-- The tries of a block, whose node denotes a node by its hash. -/
structure TrieForest where
  classes : Option (Trie Felt actualHeight)
  contracts : Option (Trie Felt actualHeight)
  storage : Felt → Option (Trie Felt actualHeight)
  leaf : ContractAddress → ContractLeafData
  globalRoots : GlobalRoots
  preimage : Felt → MerkleNode
  preimage_of_mem : ∀ t, (classes = some t ∨ contracts = some t ∨ ∃ a, storage a = some t) →
    ∀ key, ∀ e ∈ t.nodesOn key, preimage e.1 = merkleNodeOf e.2
  contractsTreeRoot : ∀ t, contracts = some t → globalRoots.contractsTreeRoot = t.root
  classesTreeRoot : ∀ t, classes = some t → globalRoots.classesTreeRoot = t.root
  storageRoot_leaf : ∀ a t, storage a.key = some t → (leaf a).storageRoot = some t.root

namespace TrieForest

variable (forest : TrieForest)

/-- The hashes on the way of a key. -/
def hashesOn (t : Option (Trie Felt actualHeight)) (key : Felt) : List Felt :=
  match t with
  | some t => (t.nodesOn (keyBits key)).map Prod.fst
  | none => []

/-- The node of the forest: it gives every key the nodes on its way. -/
def oracle : NodeOracle where
  preimage := forest.preimage
  classNodes := hashesOn forest.classes
  contractNodes a := hashesOn forest.contracts a.key
  storageNodes a := hashesOn (forest.storage a)
  leaf := forest.leaf
  globalRoots := forest.globalRoots

/-- One of the tries of the forest. -/
def Has (t : Trie Felt actualHeight) : Prop :=
  forest.classes = some t ∨ forest.contracts = some t ∨ ∃ a, forest.storage a = some t

variable {forest}

/-- **A store that knows the hashes on a key's way by their nodes looks the key up.** -/
theorem walk_eq_lookup {t : Trie Felt actualHeight} (ht : forest.Has t) {key : Felt}
    {read : Felt → Option MerkleNode}
    (hread : ∀ hash ∈ hashesOn (some t) key, read hash = some (forest.preimage hash)) :
    Trie.walk (fun hash => (read hash).map MerkleNode.view) (keyBits key) t.root
      = t.lookup (keyBits key) := by
  refine Trie.walk_eq_lookup t (length_keyBits key) fun e he => ?_
  have hhash : e.1 ∈ hashesOn (some t) key := List.mem_map.mpr ⟨e, he, rfl⟩
  rw [hread e.1 hhash, forest.preimage_of_mem t ht _ e he, Option.map_some,
    view_merkleNodeOf he]

end TrieForest

/-! ### The OS input -/

section Infos

variable {Output Message BaseBlockInfo : Type} {cache : StateCache}
  (c : Committer cache.StateChangesKeys)

/-- The commitment info has the trie's root, and nodes in which the key is looked up below it. -/
def InfoLooksUp (info : CommitmentInfo) (t : Trie Felt actualHeight) (key : Felt) : Prop :=
  info.previousRoot = t.root ∧
    ∃ nodes, FactsOf c nodes info.commitmentFacts ∧
      Trie.walk (fun hash => (nodes.get hash).map MerkleNode.view) (keyBits key) info.previousRoot
        = t.lookup (keyBits key)

/-- Every key that the execution read is looked up in the commitment info of its trie. -/
structure InfosLookUpReads (forest : TrieForest)
    (executionData : VirtualBlockExecutionData Output Message BaseBlockInfo)
    (infos : StateCommitmentInfos) : Prop where
  storage : ∀ a key, (a, key) ∈ executionData.initialReads.storage.keys →
    ∀ t, forest.storage a.key = some t →
      ∃ info, infos.storageTriesCommitmentInfos.get a = some info ∧ InfoLooksUp c info t key.key
  contract : ∀ a, executionData.initialReads.Touches a → ∀ t, forest.contracts = some t →
    InfoLooksUp c infos.contractsTrieCommitmentInfo t a.key
  executedClass : ∀ classHash ∈ executionData.executedClassHashes, ∀ t, forest.classes = some t →
    InfoLooksUp c infos.classesTrieCommitmentInfo t classHash

variable {c}

/-- Nodes that are all of the nodes on the ways of some keys look these keys up. -/
theorem infoLooksUp_of_graph {forest : TrieForest} {t : Trie Felt actualHeight}
    (ht : forest.Has t) {nodes : IndexMap Felt MerkleNode} {hashes : Set Felt}
    (hnodes : nodes.Graph forest.preimage hashes) {key : Felt}
    (hkey : ∀ hash ∈ TrieForest.hashesOn (some t) key, hash ∈ hashes) {info : CommitmentInfo}
    (hroot : info.previousRoot = t.root) (hfacts : FactsOf c nodes info.commitmentFacts) :
    InfoLooksUp c info t key := by
  refine ⟨hroot, nodes, hfacts, ?_⟩
  rw [hroot]
  refine TrieForest.walk_eq_lookup ht fun hash hhash => ?_
  exact (hnodes hash _).mpr ⟨hkey hash hhash, rfl⟩

/-- What is made of a forest's answer looks every read up. -/
theorem infosLookUpReads_of_answers {forest : TrieForest} {rpcProof : RpcStorageProof}
    {executionData : VirtualBlockExecutionData Output Message BaseBlockInfo}
    (h : forest.oracle.Answers (prepareQuery cache executionData) rpcProof)
    {proofs : StorageProofs}
    (hto : toStorageProofs c executionData ⟨false⟩ (prepareQuery cache executionData) rpcProof
      = .ok proofs)
    (haligned : AlignedWith c forest.oracle executionData.initialReads proofs) :
    InfosLookUpReads c forest executionData proofs.commitmentInfos := by
  obtain ⟨-, -, hinfos⟩ := toStorageProofs_eq_ok.mp hto
  obtain ⟨storage, -, hpure⟩ := bind_eq_ok.mp hinfos
  obtain ⟨reads, infos⟩ := proofs
  obtain rfl := pure_eq_ok.mp hpure
  refine ⟨?_, ?_, ?_⟩
  · intro a key hkey t ht
    obtain ⟨info, hinfo, hroot, -, nodes, hnodes, hfacts⟩ := haligned.info a (.inl ⟨key, hkey⟩)
    have hleaf : (forest.oracle.leaf a).storageRoot = some t.root := forest.storageRoot_leaf a t ht
    refine ⟨info, hinfo, infoLooksUp_of_graph (.inr (.inr ⟨a.key, ht⟩)) hnodes ?_ ?_ hfacts⟩
    · intro hash hhash
      refine ⟨key, hkey, ?_⟩
      change hash ∈ TrieForest.hashesOn (forest.storage a.key) key.key
      rwa [ht]
    · rw [hroot, hleaf, Option.getD_some]
  · intro a ha t ht
    refine infoLooksUp_of_graph (.inr (.inl ht)) h.contracts (fun hash hhash => ?_) ?_
      (factsOf_flattenNodes c _)
    · refine ⟨a, (mem_contractAddresses_prepareQuery cache executionData).mpr ha, ?_⟩
      change hash ∈ TrieForest.hashesOn forest.contracts a.key
      rwa [ht]
    · exact (congrArg GlobalRoots.contractsTreeRoot h.roots).trans (forest.contractsTreeRoot t ht)
  · intro classHash hc t ht
    refine infoLooksUp_of_graph (.inl ht) h.classes (fun hash hhash => ?_) ?_
      (factsOf_flattenNodes c _)
    · refine ⟨classHash, hc, ?_⟩
      change hash ∈ TrieForest.hashesOn forest.classes classHash
      rwa [ht]
    · exact (congrArg GlobalRoots.classesTreeRoot h.roots).trans (forest.classesTreeRoot t ht)

/-- The storage proofs of an execution, against the node of a forest. -/
theorem exists_getStorageProofs {forest : TrieForest} {node : ProofNode} {blockNumber : ℕ}
    (executionData : VirtualBlockExecutionData Output Message BaseBlockInfo)
    (hnode : forest.oracle.Honest node blockNumber) :
    ∃ proofs log, getStorageProofs c node blockNumber executionData ⟨false⟩ [] = .ok (proofs, log) ∧
      AlignedWith c forest.oracle executionData.initialReads proofs ∧
      InfosLookUpReads c forest executionData proofs.commitmentInfos := by
  have hnd := (aligned_prepareQuery cache executionData).nodup_storageAddresses
  obtain ⟨replies, hans, hreplies⟩ := Answered.exists_of_total (P := forest.oracle.Answers)
    (proofRequest blockNumber) 0 (sentQueries (prepareQuery cache executionData))
    fun i sent hsent => hnode i sent (countTotalKeys_of_mem_sentQueries hsent)
  obtain _ | ⟨first, rest⟩ := replies
  · exact absurd (List.forall₂_nil_right_iff.mp hreplies) (sentQueries_ne_nil _)
  have hanswers := answers_unitedReply hnd hreplies
  obtain ⟨proofs, hto, haligned⟩ := toStorageProofs_of_answers c executionData hanswers
  exact ⟨proofs, _, getStorageProofs_eq_ok.mpr ⟨first, rest, hans, hto, rfl⟩, haligned,
    infosLookUpReads_of_answers hanswers hto haligned⟩

end Infos

/-- **The nodes in the OS input look up every read**: those of a contract its storage keys, those
of the contracts the touched contracts, and those of the classes the executed ones. -/
theorem infos_look_up_reads {Output Message BaseBlockInfo : Type} {cache : StateCache}
    (c : Committer cache.StateChangesKeys) (forest : TrieForest) (node : ProofNode)
    (blockNumber : ℕ) (executionData : VirtualBlockExecutionData Output Message BaseBlockInfo)
    (hnode : forest.oracle.Honest node blockNumber) :
    ∃ proofs log, getStorageProofs c node blockNumber executionData ⟨false⟩ [] = .ok (proofs, log) ∧
      InfosLookUpReads c forest executionData proofs.commitmentInfos := by
  obtain ⟨proofs, log, hproofs, -, hlook⟩ := exists_getStorageProofs executionData hnode
  exact ⟨proofs, log, hproofs, hlook⟩

/-! ### The facts database -/

section Database

variable {Keys : Type} (c : Committer Keys)

/-- Nodes are read back from their serialization. -/
def DecodesNodes (decode : c.DbValue → Option MerkleNode) : Prop :=
  ∀ hash node value, c.serialize (c.filledNodeFrom hash node) = .ok value →
    decode value = some node

/-- The node that the database has for a hash. -/
def dbNode (decode : c.DbValue → Option MerkleNode) (db : c.DbHashMap) (hash : Felt) :
    Option MerkleNode :=
  (db.get (c.innerNodeKey hash)).bind decode

/-- The trie has the leaf under the key, or nothing. -/
def HoldsAt (t : Trie Felt actualHeight) (key : Felt) (leaf : Leaf) : Prop :=
  ∀ hash, t.lookup (keyBits key) = some hash → hash = c.computeLeafHash leaf

/-- The tries have the values that were read and the leaves that the node gives. -/
structure TrieForest.HoldsReads (forest : TrieForest) (reads : StateMaps) : Prop where
  storage : ∀ entry ∈ reads.storage.entries, ∀ t, forest.storage entry.1.1.key = some t →
    HoldsAt c t entry.1.2.key (storageLeaf entry).1
  contracts : ∀ a t, forest.contracts = some t →
    HoldsAt c t a.key (contractLeaf (forest.leaf a)).1

/-- The leaves that the database is given for some reads. -/
def TrieForest.leavesRead (forest : TrieForest) (addresses : List ContractAddress)
    (reads : StateMaps) : List (Leaf × KeyContext) :=
  (addresses.map forest.leaf).map contractLeaf ++ reads.storage.entries.map storageLeaf

/-- Below the trie's root the key is looked up in the database, in which every hash on the way has
the entry of its own node. -/
structure FindsWay (decode : c.DbValue → Option MerkleNode) (forest : TrieForest)
    (db : c.DbHashMap) (t : Trie Felt actualHeight) (key : Felt) : Prop where
  nodes : ∀ hash ∈ TrieForest.hashesOn (some t) key,
    Stored c db (c.innerNodeKey hash, c.filledNodeFrom hash (forest.preimage hash))
  walk : Trie.walk (fun hash => (dbNode c decode db hash).map MerkleNode.view) (keyBits key) t.root
    = t.lookup (keyBits key)

/-- The way of the key is found, and a leaf at its end is in the database too. -/
structure LooksUp (decode : c.DbValue → Option MerkleNode) (forest : TrieForest)
    (db : c.DbHashMap) (t : Trie Felt actualHeight) (key : Felt)
    (leaf : Leaf × KeyContext) : Prop extends FindsWay c decode forest db t key where
  leaf : ∀ hash, t.lookup (keyBits key) = some hash →
    Stored c db (c.getDbKey ⟨hash, .leaf leaf.1⟩ leaf.2 hash, ⟨hash, .leaf leaf.1⟩)

/-- Every key that the execution read is looked up below the root of its trie. -/
structure LooksUpReads (decode : c.DbValue → Option MerkleNode) (forest : TrieForest)
    {Output Message BaseBlockInfo : Type}
    (executionData : VirtualBlockExecutionData Output Message BaseBlockInfo)
    (db : c.DbHashMap) : Prop where
  storage : ∀ entry ∈ executionData.initialReads.storage.entries,
    ∀ t, forest.storage entry.1.1.key = some t →
      LooksUp c decode forest db t entry.1.2.key (storageLeaf entry)
  contract : ∀ a, executionData.initialReads.Touches a → ∀ t, forest.contracts = some t →
    LooksUp c decode forest db t a.key (contractLeaf (forest.leaf a))
  executedClass : ∀ classHash ∈ executionData.executedClassHashes, ∀ t, forest.classes = some t →
    FindsWay c decode forest db t classHash

variable {c} {decode : c.DbValue → Option MerkleNode} {forest : TrieForest}
  {rpcProof : RpcStorageProof} {query : RpcStorageProofsQuery} {initialReads : StateMaps}
  {db : c.DbHashMap}

/-- The answers of a node give one node for one hash. -/
theorem NodeOracle.Answers.preimage_of_hasNode {o : NodeOracle} (h : o.Answers query rpcProof)
    {hash : Felt} {node : MerkleNode} (hn : rpcProof.HasNode hash node) :
    node = o.preimage hash := by
  obtain ⟨nodes, hnodes, he⟩ := hn
  have hget := IndexMap.get_eq_some_iff.mpr he
  rcases List.mem_cons.mp hnodes with rfl | hnodes
  · exact ((h.contracts hash node).mp hget).2
  · rcases List.mem_cons.mp hnodes with rfl | hnodes
    · exact ((h.classes hash node).mp hget).2
    · obtain ⟨i, hi, rfl⟩ := List.mem_iff_getElem.mp hnodes
      have hi' : i < query.contractStorageKeys.length := h.storage.length_eq ▸ hi
      exact ((h.storage.get hi' hi hash node).mp hget).2

theorem NodeOracle.Answers.oneNode {o : NodeOracle} (h : o.Answers query rpcProof) :
    rpcProof.OneNode := fun _ _ _ hn hn' =>
  (h.preimage_of_hasNode hn).trans (h.preimage_of_hasNode hn').symm

/-- The nodes of a proof that are on a key's way look the key up. -/
theorem findsWay_of_hasNode (hkeys : KeysApart c) (hdecode : DecodesNodes c decode)
    (hans : forest.oracle.Answers query rpcProof)
    (hleaf : OneLeaf c (leavesOf rpcProof initialReads))
    (hdb : createFactsDbFromStorageProof c rpcProof query initialReads = .ok db)
    {t : Trie Felt actualHeight} (ht : forest.Has t) {key : Felt}
    (hhas : ∀ hash ∈ TrieForest.hashesOn (some t) key,
      rpcProof.HasNode hash (forest.preimage hash)) :
    FindsWay c decode forest db t key := by
  have hnodes : ∀ hash ∈ TrieForest.hashesOn (some t) key,
      Stored c db (c.innerNodeKey hash, c.filledNodeFrom hash (forest.preimage hash)) :=
    fun hash hhash => stored_of_mem_items hkeys hans.oneNode hleaf hdb
      (mem_items.mpr (.inl ⟨hash, _, hhas hash hhash, rfl⟩))
  refine ⟨hnodes, TrieForest.walk_eq_lookup ht fun hash hhash => ?_⟩
  obtain ⟨value, hvalue, hget⟩ := hnodes hash hhash
  rw [dbNode, hget, Option.bind_some]
  exact hdecode hash _ value hvalue

/-- A leaf that is stored is found under the hash that the trie has for it. -/
theorem stored_of_holdsAt (hkeys : KeysApart c) (hnode : rpcProof.OneNode)
    (hone : OneLeaf c (leavesOf rpcProof initialReads))
    (hdb : createFactsDbFromStorageProof c rpcProof query initialReads = .ok db)
    {t : Trie Felt actualHeight} {key : Felt} {leaf : Leaf × KeyContext}
    (hmem : leaf ∈ leavesOf rpcProof initialReads) (hholds : HoldsAt c t key leaf.1) {hash : Felt}
    (hlook : t.lookup (keyBits key) = some hash) :
    Stored c db (c.getDbKey ⟨hash, .leaf leaf.1⟩ leaf.2 hash, ⟨hash, .leaf leaf.1⟩) := by
  obtain rfl := hholds hash hlook
  exact stored_of_mem_items hkeys hnode hone hdb (mem_items.mpr (.inr ⟨leaf, hmem, rfl⟩))

end Database

/-- The nodes on the way of what a query asks for are in the answer to it. -/
theorem NodeOracle.Answers.hasNode {o : NodeOracle} {query : RpcStorageProofsQuery}
    {rpcProof : RpcStorageProof} (h : o.Answers query rpcProof) :
    (∀ classHash ∈ query.classHashes, ∀ hash ∈ o.classNodes classHash,
        rpcProof.HasNode hash (o.preimage hash)) ∧
      (∀ a ∈ query.contractAddresses, ∀ hash ∈ o.contractNodes a,
        rpcProof.HasNode hash (o.preimage hash)) ∧
      ∀ csk ∈ query.contractStorageKeys, ∀ k ∈ csk.storageKeys,
        ∀ hash ∈ o.storageNodes csk.contractAddress k,
          rpcProof.HasNode hash (o.preimage hash) := by
  refine ⟨fun classHash hc hash hh => ?_, fun a ha hash hh => ?_, fun csk hcsk k hk hash hh => ?_⟩
  · exact ⟨_, List.mem_cons_of_mem _ List.mem_cons_self,
      IndexMap.get_eq_some_iff.mp ((h.classes hash _).mpr ⟨⟨classHash, hc, hh⟩, rfl⟩)⟩
  · exact ⟨_, List.mem_cons_self,
      IndexMap.get_eq_some_iff.mp ((h.contracts hash _).mpr ⟨⟨a, ha, hh⟩, rfl⟩)⟩
  · obtain ⟨nodes, hnodes, hgraph⟩ := exists_right_of_forall₂ h.storage hcsk
    refine ⟨nodes, List.mem_cons_of_mem _ (List.mem_cons_of_mem _ hnodes),
      IndexMap.get_eq_some_iff.mp ((hgraph hash _).mpr ⟨⟨k, ?_, hh⟩, rfl⟩)⟩
    simpa [storagePairs] using hk

/-- The leaves of an answer of a forest. -/
theorem NodeOracle.Answers.leavesOf_eq {forest : TrieForest} {query : RpcStorageProofsQuery}
    {rpcProof : RpcStorageProof} (h : forest.oracle.Answers query rpcProof)
    (initialReads : StateMaps) :
    leavesOf rpcProof (extendedInitialReads rpcProof query initialReads)
      = forest.leavesRead query.contractAddresses initialReads := by
  rw [extendedInitialReads_eq, leavesOf, TrieForest.leavesRead, h.leaves]
  exact List.append_nil _

/-- **The facts database looks up every read**, when it is filled with the answers of a forest. -/
theorem factsDb_looks_up_reads {Output Message BaseBlockInfo : Type} {cache : StateCache}
    (c : Committer cache.StateChangesKeys) (decode : c.DbValue → Option MerkleNode)
    (forest : TrieForest) (node : ProofNode) (blockNumber : ℕ)
    (executionData : VirtualBlockExecutionData Output Message BaseBlockInfo)
    (hkeys : KeysApart c) (hdecode : DecodesNodes c decode)
    (hnode : forest.oracle.Honest node blockNumber)
    (hreads : forest.HoldsReads c executionData.initialReads)
    (hleaf : OneLeaf c (forest.leavesRead (prepareQuery cache executionData).contractAddresses
      executionData.initialReads)) :
    ∃ proof log,
      fetchProofs node blockNumber (prepareQuery cache executionData) [] = .ok (proof, log) ∧
      ∀ db, createFactsDbFromStorageProof c proof (prepareQuery cache executionData)
          (extendedInitialReads proof (prepareQuery cache executionData)
            executionData.initialReads) = .ok db →
        LooksUpReads c decode forest executionData db := by
  have hal := aligned_prepareQuery cache executionData
  have hnd := hal.nodup_storageAddresses
  obtain ⟨replies, hreplied, hreplies⟩ := Answered.exists_of_total (P := forest.oracle.Answers)
    (proofRequest blockNumber) 0 (sentQueries (prepareQuery cache executionData))
    fun i sent hsent => hnode i sent (countTotalKeys_of_mem_sentQueries hsent)
  obtain _ | ⟨first, rest⟩ := replies
  · exact absurd (List.forall₂_nil_right_iff.mp hreplies) (sentQueries_ne_nil _)
  have hans := answers_unitedReply hnd hreplies
  refine ⟨_, _, (fetchProofs_eq_ok hnd).mpr ⟨first, rest, hreplied, rfl, rfl⟩, ?_⟩
  intro db hdb
  have hleaves := hans.leavesOf_eq executionData.initialReads
  rw [← hleaves] at hleaf
  obtain ⟨hclasses, hcontracts, hstorage⟩ := hans.hasNode
  -- the storage entries of the query are at the addresses that are touched
  have hentry : ∀ entry ∈ executionData.initialReads.storage.entries,
      ∃ csk ∈ (prepareQuery cache executionData).contractStorageKeys,
        csk.contractAddress = entry.1.1.key ∧ entry.1.2.key ∈ csk.storageKeys := by
    rintro ⟨⟨a, key⟩, value⟩ he
    have hkey : (a, key) ∈ executionData.initialReads.storage.keys :=
      List.mem_map.mpr ⟨_, he, rfl⟩
    have ha : a ∈ (prepareQuery cache executionData).contractAddresses :=
      (mem_contractAddresses_prepareQuery cache executionData).mpr (.inl ⟨key, hkey⟩)
    exact ⟨_, List.mem_map.mpr ⟨a, ha, rfl⟩, rfl, mem_storageByAddress.mpr ⟨key, rfl, hkey⟩⟩
  refine ⟨?_, ?_, ?_⟩
  · intro entry he t ht
    obtain ⟨csk, hcsk, haddr, hk⟩ := hentry entry he
    refine ⟨findsWay_of_hasNode hkeys hdecode hans hleaf hdb (.inr (.inr ⟨_, ht⟩))
      fun hash hh => ?_, fun hash hlook => ?_⟩
    · refine hstorage csk hcsk _ hk hash ?_
      change hash ∈ TrieForest.hashesOn (forest.storage csk.contractAddress) entry.1.2.key
      rwa [haddr, ht]
    · refine stored_of_holdsAt hkeys hans.oneNode hleaf hdb ?_ (hreads.storage entry he t ht) hlook
      rw [hleaves]
      exact List.mem_append_right _ (List.mem_map.mpr ⟨entry, he, rfl⟩)
  · intro a ha t ht
    have hmem : a ∈ (prepareQuery cache executionData).contractAddresses :=
      (mem_contractAddresses_prepareQuery cache executionData).mpr ha
    refine ⟨findsWay_of_hasNode hkeys hdecode hans hleaf hdb (.inr (.inl ht)) fun hash hh => ?_,
      fun hash hlook => ?_⟩
    · refine hcontracts a hmem hash ?_
      change hash ∈ TrieForest.hashesOn forest.contracts a.key
      rwa [ht]
    · refine stored_of_holdsAt hkeys hans.oneNode hleaf hdb ?_ (hreads.contracts a t ht) hlook
      rw [hleaves]
      exact List.mem_append_left _ (List.mem_map.mpr ⟨_, List.mem_map.mpr ⟨a, hmem, rfl⟩, rfl⟩)
  · intro classHash hc t ht
    refine findsWay_of_hasNode hkeys hdecode hans hleaf hdb (.inl ht) fun hash hh => ?_
    refine hclasses classHash hc hash ?_
    change hash ∈ TrieForest.hashesOn forest.classes classHash
    rwa [ht]

/-! ### A forest of two tries -/

theorem keyBits_ne_nil (key : Felt) : keyBits key ≠ [] :=
  List.length_pos_iff.mp ((length_keyBits key).symm ▸ (by norm_num [actualHeight]))

/-- The trie with one leaf. -/
def oneLeafTrie (hash key leaf : Felt) : Trie Felt actualHeight :=
  .edge hash (keyBits key) (keyBits_ne_nil key) ((Nat.add_zero _).trans (length_keyBits key))
    (.leaf leaf)

theorem eq_of_mem_nodesOn_oneLeafTrie {hash key leaf : Felt} {way : List Bool}
    {e : Felt × TrieNode Felt} (h : e ∈ (oneLeafTrie hash key leaf).nodesOn way) :
    e = (hash, .edge (keyBits key) leaf) := by
  rcases List.mem_cons.mp h with rfl | h
  · rfl
  · split at h
    · exact absurd h List.not_mem_nil
    · exact absurd h List.not_mem_nil

/-- A leaf of the trie is its leaf. -/
theorem eq_of_lookup_oneLeafTrie {hash key leaf found : Felt} {way : List Bool}
    (h : (oneLeafTrie hash key leaf).lookup way = some found) : found = leaf := by
  rw [oneLeafTrie, Trie.lookup] at h
  split at h
  · exact (Option.some.inj h).symm
  · cases h

/-- The contract `5` with the storage value `20` at the key `4`. -/
def sampleForest : TrieForest where
  classes := none
  contracts := some (oneLeafTrie 8 5 42)
  storage a := if a = 5 then some (oneLeafTrie 6 4 20) else none
  leaf a := ⟨1, 42, if a.key = 5 then some 6 else none⟩
  globalRoots := ⟨8, 0, 100⟩
  preimage hash := merkleNodeOf
    (if hash = 6 then .edge (keyBits 4) 20 else .edge (keyBits 5) 42)
  preimage_of_mem := by
    have hne : (8 : Felt) ≠ 6 := by decide +kernel
    rintro t (ht | ht | ⟨a, ht⟩) key e he
    · cases ht
    · obtain rfl := Option.some.inj ht
      rw [eq_of_mem_nodesOn_oneLeafTrie he, if_neg hne]
    · split at ht
      · obtain rfl := Option.some.inj ht
        rw [eq_of_mem_nodesOn_oneLeafTrie he, if_pos rfl]
      · cases ht
  contractsTreeRoot := by
    intro t ht
    obtain rfl := Option.some.inj ht
    rfl
  classesTreeRoot := by
    intro t ht
    cases ht
  storageRoot_leaf := by
    intro a t ht
    split at ht
    · rename_i ha
      obtain rfl := Option.some.inj ht
      exact if_pos ha
    · cases ht

theorem eq_of_storage_sampleForest {a : Felt} {t : Trie Felt actualHeight}
    (h : sampleForest.storage a = some t) : t = oneLeafTrie 6 4 20 := by
  simp only [sampleForest] at h
  split at h
  · exact (Option.some.inj h).symm
  · cases h

theorem three_lt : (3 : Felt).val < patriciaKeyUpperBound := by decide

theorem four_lt : (4 : Felt).val < patriciaKeyUpperBound := by decide

theorem five_lt : (5 : Felt).val < patriciaKeyUpperBound := by decide

/-- The value at `4` and the absence of one at `3`, read at the contract `5`. -/
def forestStorage : List ((ContractAddress × PatriciaKey) × Felt) :=
  [((⟨5, five_lt⟩, ⟨4, four_lt⟩), 20), ((⟨5, five_lt⟩, ⟨3, three_lt⟩), 0)]

theorem nodup_forestClasses : [(42 : ClassHash)].Nodup := List.nodup_singleton 42

theorem nodup_forestStorage : (forestStorage.map Prod.fst).Nodup := by
  decide +kernel

/-- An execution with these reads. -/
def forestExecution : VirtualBlockExecutionData Unit Unit Unit where
  executionOutputs := []
  initialReads := { StateMaps.default with storage := ⟨forestStorage, nodup_forestStorage⟩ }
  stateDiff := .default
  executedClassHashes := [42]
  nodup_executedClassHashes := nodup_forestClasses
  l2ToL1Messages := []
  baseBlockInfo := ()

theorem infos_look_up_forestExecution :
    ∃ proofs log, getStorageProofs (sampleCommitter : Committer sampleCache.StateChangesKeys)
        sampleForest.oracle.node 3 forestExecution ⟨false⟩ [] = .ok (proofs, log) ∧
      InfosLookUpReads (sampleCommitter : Committer sampleCache.StateChangesKeys) sampleForest
        forestExecution proofs.commitmentInfos :=
  infos_look_up_reads sampleCommitter sampleForest sampleForest.oracle.node 3 forestExecution
    (sampleForest.oracle.honest_node 3)

/-- A cache for a committer without keys of its own. -/
def unitCache : StateCache := { sampleCache with StateChangesKeys := Unit, keys := fun _ => () }

/-- A node from its data. -/
def decodeNode : NodeData → Option MerkleNode
  | .binary left right => some (.binaryNode left right)
  | .edge child path length => some (.edgeNode path length child)
  | .leaf _ => none

theorem decodesNodes_prefixedCommitter : DecodesNodes prefixedCommitter decodeNode := by
  intro hash node value h
  obtain rfl := Except.ok.inj h
  cases node <;> rfl

theorem holdsReads_sampleForest :
    sampleForest.HoldsReads prefixedCommitter forestExecution.initialReads where
  storage := by
    intro entry he t ht hash hlook
    obtain rfl := eq_of_storage_sampleForest ht
    rcases List.mem_cons.mp he with rfl | he
    · exact eq_of_lookup_oneLeafTrie hlook
    · obtain rfl := List.mem_singleton.mp he
      have hoff : ¬ keyBits 4 <+: keyBits 3 := by decide +kernel
      rw [oneLeafTrie, Trie.lookup, if_neg hoff] at hlook
      cases hlook
  contracts := by
    intro a t ht hash hlook
    obtain rfl := Option.some.inj ht
    exact eq_of_lookup_oneLeafTrie hlook

theorem addresses_forestExecution :
    (prepareQuery unitCache forestExecution).contractAddresses = [⟨5, five_lt⟩] := by
  decide +kernel

theorem oneLeaf_sampleForest :
    OneLeaf prefixedCommitter (sampleForest.leavesRead
      (prepareQuery unitCache forestExecution).contractAddresses forestExecution.initialReads) := by
  have hread : sampleForest.leavesRead
      (prepareQuery unitCache forestExecution).contractAddresses forestExecution.initialReads
        = [contractLeaf ⟨1, 42, some 6⟩, (.storageValue 20, .contractAddress ⟨5, five_lt⟩),
          (.storageValue 0, .contractAddress ⟨5, five_lt⟩)] := by
    rw [addresses_forestExecution]
    rfl
  rw [hread]
  intro leaf hl leaf' hl' hkind hhash
  simp only [List.mem_cons, List.not_mem_nil, or_false] at hl hl'
  rcases hl with rfl | rfl | rfl <;> rcases hl' with rfl | rfl | rfl <;>
    first | rfl | exact congrArg Leaf.storageValue hhash | cases hkind

theorem factsDb_looks_up_forestExecution :
    ∃ proof log db,
      fetchProofs sampleForest.oracle.node 3 (prepareQuery unitCache forestExecution) []
        = .ok (proof, log) ∧
      createFactsDbFromStorageProof prefixedCommitter proof
        (prepareQuery unitCache forestExecution)
        (extendedInitialReads proof (prepareQuery unitCache forestExecution)
          forestExecution.initialReads) = .ok db ∧
      LooksUpReads prefixedCommitter decodeNode sampleForest forestExecution db := by
  obtain ⟨proof, log, hfetch, hlooks⟩ := @factsDb_looks_up_reads Unit Unit Unit unitCache
    prefixedCommitter decodeNode sampleForest sampleForest.oracle.node 3 forestExecution
    keysApart_prefixedCommitter decodesNodes_prefixedCommitter (sampleForest.oracle.honest_node 3)
    holdsReads_sampleForest oneLeaf_sampleForest
  have hfew : countTotalKeys (prepareQuery unitCache forestExecution) ≤ maxKeysPerRequest := by
    decide +kernel
  have hsent := hfetch
  rw [fetchProofs, if_pos hfew, fetchSingleProof, Session.send_eq_ok, NodeOracle.node,
    query_proofRequest] at hsent
  obtain rfl := Except.ok.inj hsent.1
  have hok : (createFactsDbFromStorageProof prefixedCommitter
      (sampleForest.oracle.answer (prepareQuery unitCache forestExecution))
      (prepareQuery unitCache forestExecution)
      (extendedInitialReads (sampleForest.oracle.answer (prepareQuery unitCache forestExecution))
        (prepareQuery unitCache forestExecution) forestExecution.initialReads)).isOk = true := by
    decide +kernel
  obtain ⟨db, hdb⟩ := exists_eq_ok hok
  exact ⟨_, log, db, hfetch, hdb, hlooks db hdb⟩

end Snip36.StorageProofs
