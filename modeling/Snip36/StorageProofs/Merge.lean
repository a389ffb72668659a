import Snip36.StorageProofs.Query
import Snip36.Support.IndexMap

/-!
# Storage proofs — merging the answers to the chunks

`mergeStorageProofs` puts the answers to the chunks of a query back into one answer: trie nodes
are united, leaves are concatenated, and the proof of a storage entry joins the vector at the
index its address has in the original query.

The vector is updated through a map from addresses to indices.  Where the addresses of the
original query are distinct, an update through that map is an update of the entries with the
address (`modify_addrToIdx`), so the loop never panics and is a fold of `placeProof`
(`mergeStorageProofs_eq`).
-/

namespace Snip36.StorageProofs
open Support

/-! ### Proofs -/

/-- `MerkleNode`. -/
inductive MerkleNode where
  | binaryNode (left right : Felt)
  | edgeNode (path : Felt) (length : ℕ) (child : Felt)
  deriving DecidableEq

/-- `ContractLeafData`. -/
structure ContractLeafData where
  nonce : Felt
  classHash : Felt
  storageRoot : Option Felt
  deriving DecidableEq

/-- `GlobalRoots`. -/
structure GlobalRoots where
  contractsTreeRoot : Felt
  classesTreeRoot : Felt
  blockHash : Felt
  deriving DecidableEq

/-- `ContractsProof`. -/
structure ContractsProof where
  nodes : IndexMap Felt MerkleNode
  contractLeavesData : List ContractLeafData
  deriving DecidableEq

/-- `StorageProof` of the RPC. -/
structure RpcStorageProof where
  classesProof : IndexMap Felt MerkleNode
  contractsProof : ContractsProof
  contractsStorageProofs : List (IndexMap Felt MerkleNode)
  globalRoots : GlobalRoots
  deriving DecidableEq

/-- The addresses of a query's storage entries. -/
def storageAddresses (query : RpcStorageProofsQuery) : List Felt :=
  query.contractStorageKeys.map (·.contractAddress)

/-! ### The merge -/

/-- `addr_to_idx`, the index of every address of the original query. -/
def addrToIdx (originalQuery : RpcStorageProofsQuery) : IndexMap Felt ℕ :=
  .ofList (originalQuery.contractStorageKeys.zipIdx.map fun (csk, i) => (csk.contractAddress, i))

/-- The inner loop's body: the proof of one storage entry of a chunk joins the vector. -/
def mergeStorageProof {ε : Type} (originalQuery : RpcStorageProofsQuery)
    (acc : List (IndexMap Felt MerkleNode))
    (entry : ContractStorageKeys × IndexMap Felt MerkleNode) :
    Fallible ε (List (IndexMap Felt MerkleNode)) := do
  let idx ← expect ((addrToIdx originalQuery).get entry.1.contractAddress)
    "chunk address not in original query"
  pure (acc.modify idx fun m => m.extend entry.2.entries)

/-- The outer loop's body: the answer to one chunk joins the merged answer. -/
def mergeChunk {ε : Type} (originalQuery : RpcStorageProofsQuery) (acc : RpcStorageProof)
    (chunk : RpcStorageProofsQuery × RpcStorageProof) : Fallible ε RpcStorageProof := do
  let (chunkQuery, proof) := chunk
  let contractsStorageProofs ←
    (chunkQuery.contractStorageKeys.zip proof.contractsStorageProofs).foldlM
      (mergeStorageProof originalQuery) acc.contractsStorageProofs
  pure {
    classesProof := acc.classesProof.extend proof.classesProof.entries
    contractsProof := {
      nodes := acc.contractsProof.nodes.extend proof.contractsProof.nodes.entries
      contractLeavesData :=
        acc.contractsProof.contractLeavesData ++ proof.contractsProof.contractLeavesData }
    contractsStorageProofs
    globalRoots := acc.globalRoots }

/-- What the loop starts from: the roots of the first answer and no data. -/
def mergeInit (originalQuery : RpcStorageProofsQuery) (globalRoots : GlobalRoots) :
    RpcStorageProof where
  classesProof := .empty
  contractsProof := ⟨.empty, []⟩
  contractsStorageProofs := originalQuery.contractStorageKeys.map fun _ => .empty
  globalRoots := globalRoots

/-- `merge_storage_proofs`. -/
def mergeStorageProofs {ε : Type} (proofs : List RpcStorageProof)
    (splitQueries : List RpcStorageProofsQuery) (originalQuery : RpcStorageProofsQuery) :
    Fallible ε RpcStorageProof := do
  require (proofs.length = splitQueries.length) "proofs/queries length mismatch"
  let first ← expect proofs.head? "cannot merge zero proofs"
  (splitQueries.zip proofs).foldlM (mergeChunk originalQuery)
    (mergeInit originalQuery first.globalRoots)

/-! ### The merge as a fold -/

/-- The proof of a storage entry joins the proofs of the entries with its address. -/
def placeProof (entries : List ContractStorageKeys) (acc : List (IndexMap Felt MerkleNode))
    (entry : ContractStorageKeys × IndexMap Felt MerkleNode) : List (IndexMap Felt MerkleNode) :=
  List.zipWith
    (fun e m => if e.contractAddress = entry.1.contractAddress then m.extend entry.2.entries else m)
    entries acc

theorem length_placeProof {entries : List ContractStorageKeys}
    {acc : List (IndexMap Felt MerkleNode)} (h : acc.length = entries.length)
    (entry : ContractStorageKeys × IndexMap Felt MerkleNode) :
    (placeProof entries acc entry).length = entries.length := by
  simp [placeProof, h]

theorem length_foldl_placeProof {entries : List ContractStorageKeys}
    (added : List (ContractStorageKeys × IndexMap Felt MerkleNode))
    {acc : List (IndexMap Felt MerkleNode)} (h : acc.length = entries.length) :
    (added.foldl (placeProof entries) acc).length = entries.length := by
  induction added generalizing acc with
  | nil => exact h
  | cons entry added ih => exact ih (length_placeProof h entry)

/-- The map from addresses to indices, at distinct addresses. -/
theorem get_addrToIdx {query : RpcStorageProofsQuery} (hnd : (storageAddresses query).Nodup)
    {a : Felt} {i : ℕ} :
    (addrToIdx query).get a = some i ↔ (storageAddresses query)[i]? = some a := by
  have hkeys : ((query.contractStorageKeys.zipIdx.map
      fun x : ContractStorageKeys × ℕ => (x.1.contractAddress, x.2)).map Prod.fst).Nodup := by
    have e : (query.contractStorageKeys.zipIdx.map
        fun x : ContractStorageKeys × ℕ => (x.1.contractAddress, x.2)).map Prod.fst
          = storageAddresses query := by
      rw [List.map_map, storageAddresses]
      conv_rhs => rw [← List.zipIdx_map_fst 0 query.contractStorageKeys, List.map_map]
      rfl
    rwa [e]
  rw [addrToIdx, IndexMap.get_ofList_iff hkeys]
  simp only [List.mem_map, storageAddresses, List.getElem?_map, Option.map_eq_some_iff,
    Prod.mk.injEq, Prod.exists]
  constructor
  · rintro ⟨csk, j, hj, rfl, rfl⟩
    exact ⟨csk, List.mem_zipIdx_iff_getElem?.mp hj, rfl⟩
  · rintro ⟨csk, hi, rfl⟩
    exact ⟨csk, i, List.mem_zipIdx_iff_getElem?.mpr hi, rfl, rfl⟩

/-- An update at the one index with an address is an update of the entries with the address. -/
theorem modify_eq_zipWith {α : Type} (f : α → α) {a : Felt} :
    ∀ {entries : List ContractStorageKeys} {acc : List α} {i : ℕ},
      acc.length = entries.length → (entries.map (·.contractAddress)).Nodup →
      (entries.map (·.contractAddress))[i]? = some a →
      acc.modify i f
        = List.zipWith (fun e m => if e.contractAddress = a then f m else m) entries acc := by
  intro entries
  induction entries with
  | nil => intro acc i _ _ hi; simp at hi
  | cons e entries ih =>
      intro acc i hlen hnd hi
      obtain ⟨m, acc, rfl⟩ := List.exists_cons_of_length_eq_add_one hlen
      obtain ⟨he, hnd'⟩ := List.nodup_cons.mp hnd
      have hlen' : acc.length = entries.length := by simpa using hlen
      cases i with
      | zero =>
          obtain rfl : e.contractAddress = a := by simpa using hi
          have hrest : List.zipWith
              (fun e' m => if e'.contractAddress = e.contractAddress then f m else m) entries acc
                = acc := by
            refine List.ext_getElem (by simp [hlen']) fun j h₁ h₂ => ?_
            have hj : j < entries.length := hlen' ▸ h₂
            have hne : entries[j].contractAddress ≠ e.contractAddress := fun h =>
              he (List.mem_map.mpr ⟨entries[j], List.getElem_mem hj, h⟩)
            simp [hne]
          simp [List.modify_zero_cons, hrest]
      | succ i =>
          have hi' : (entries.map (·.contractAddress))[i]? = some a := by simpa using hi
          have hne : e.contractAddress ≠ a := by
            rintro rfl
            exact he (List.mem_of_getElem? hi')
          rw [List.modify_succ_cons, List.zipWith_cons_cons, if_neg hne, ih hlen' hnd' hi']

/-- The inner loop's body, at an address of the original query. -/
theorem mergeStorageProof_eq {ε : Type} {query : RpcStorageProofsQuery}
    (hnd : (storageAddresses query).Nodup) {acc : List (IndexMap Felt MerkleNode)}
    (hlen : acc.length = query.contractStorageKeys.length)
    {entry : ContractStorageKeys × IndexMap Felt MerkleNode}
    (ha : entry.1.contractAddress ∈ storageAddresses query) :
    (mergeStorageProof query acc entry : Fallible ε _)
      = .ok (placeProof query.contractStorageKeys acc entry) := by
  obtain ⟨i, hi⟩ := List.mem_iff_getElem?.mp ha
  have hidx := (get_addrToIdx hnd).mpr hi
  rw [mergeStorageProof, hidx, placeProof]
  exact congrArg Except.ok (modify_eq_zipWith _ hlen hnd hi)

/-- The inner loop, over a chunk with addresses of the original query. -/
theorem foldlM_mergeStorageProof {ε : Type} {query : RpcStorageProofsQuery}
    (hnd : (storageAddresses query).Nodup)
    (added : List (ContractStorageKeys × IndexMap Felt MerkleNode))
    {acc : List (IndexMap Felt MerkleNode)}
    (hlen : acc.length = query.contractStorageKeys.length)
    (ha : ∀ entry ∈ added, entry.1.contractAddress ∈ storageAddresses query) :
    (added.foldlM (mergeStorageProof query) acc : Fallible ε _)
      = .ok (added.foldl (placeProof query.contractStorageKeys) acc) := by
  induction added generalizing acc with
  | nil => rfl
  | cons entry added ih =>
      rw [List.foldlM_cons, mergeStorageProof_eq hnd hlen (ha entry (by simp))]
      exact ih (length_placeProof hlen entry) fun e he => ha e (by simp [he])

/-- The pairs of a storage entry and its proof in the answers to some chunks. -/
def answeredEntries (answered : List (RpcStorageProofsQuery × RpcStorageProof)) :
    List (ContractStorageKeys × IndexMap Felt MerkleNode) :=
  answered.flatMap fun x => x.1.contractStorageKeys.zip x.2.contractsStorageProofs

/-- The merged answer after the chunks `answered`, from `acc`. -/
def mergedFrom (query : RpcStorageProofsQuery) (acc : RpcStorageProof)
    (answered : List (RpcStorageProofsQuery × RpcStorageProof)) : RpcStorageProof where
  classesProof :=
    answered.foldl (fun m x => m.extend x.2.classesProof.entries) acc.classesProof
  contractsProof := {
    nodes :=
      answered.foldl (fun m x => m.extend x.2.contractsProof.nodes.entries) acc.contractsProof.nodes
    contractLeavesData := acc.contractsProof.contractLeavesData
      ++ answered.flatMap fun x => x.2.contractsProof.contractLeavesData }
  contractsStorageProofs :=
    (answeredEntries answered).foldl (placeProof query.contractStorageKeys)
      acc.contractsStorageProofs
  globalRoots := acc.globalRoots

/-- The addresses of a chunk's storage entries are addresses of the original query. -/
def AddressesIn (query chunk : RpcStorageProofsQuery) : Prop :=
  ∀ csk ∈ chunk.contractStorageKeys, csk.contractAddress ∈ storageAddresses query

/-- **The outer loop**, over chunks with addresses of the original query. -/
theorem foldlM_mergeChunk {ε : Type} {query : RpcStorageProofsQuery}
    (hnd : (storageAddresses query).Nodup)
    (answered : List (RpcStorageProofsQuery × RpcStorageProof)) {acc : RpcStorageProof}
    (hlen : acc.contractsStorageProofs.length = query.contractStorageKeys.length)
    (ha : ∀ x ∈ answered, AddressesIn query x.1) :
    (answered.foldlM (mergeChunk query) acc : Fallible ε _)
      = .ok (mergedFrom query acc answered) := by
  induction answered generalizing acc with
  | nil => simp [mergedFrom, answeredEntries, pure, Except.pure]
  | cons x answered ih =>
      have hx : ∀ entry ∈ x.1.contractStorageKeys.zip x.2.contractsStorageProofs,
          entry.1.contractAddress ∈ storageAddresses query := fun entry he =>
        ha x (by simp) entry.1 (List.of_mem_zip he).1
      have hstep := foldlM_mergeStorageProof (ε := ε) hnd _ hlen hx
      rw [List.foldlM_cons, mergeChunk, hstep]
      refine (ih (length_foldl_placeProof _ hlen) fun y hy => ha y (by simp [hy])).trans ?_
      simp [mergedFrom, answeredEntries, List.foldl_append, List.append_assoc]

/-- **The merge is a fold**: over chunks with addresses of the original query it never panics. -/
theorem mergeStorageProofs_eq {ε : Type} {query : RpcStorageProofsQuery}
    (hnd : (storageAddresses query).Nodup) {chunks : List RpcStorageProofsQuery}
    (ha : ∀ chunk ∈ chunks, AddressesIn query chunk) {first : RpcStorageProof}
    {rest : List RpcStorageProof} (hlen : (first :: rest).length = chunks.length) :
    (mergeStorageProofs (first :: rest) chunks query : Fallible ε _)
      = .ok (mergedFrom query (mergeInit query first.globalRoots)
          (chunks.zip (first :: rest))) := by
  rw [mergeStorageProofs, require_of hlen]
  exact foldlM_mergeChunk hnd _ (by simp [mergeInit]) fun x hx => ha x.1 (List.of_mem_zip hx).1

end Snip36.StorageProofs
