import Snip36.StorageProofs.Alignment
import Snip36.StorageProofs.FactsDbClosure
import Snip36.StorageProofs.StateDiffs

/-!
# Storage proofs — malformed replies

A reply is well shaped when it has one leaf for every contract address of its own request and one
storage proof for every storage entry of its own request (`WellShaped`); a run is strict when all
its replies are and they have the same roots (`Strict`).  The provider relies on the order of what
the node returns and says that violations are detected.  They are where a request is sent whole
and the lengths of its answer are compared with the query's.  They are not where the answers to
several chunks are merged first: leaves are concatenated, so that a long answer makes up for a
short one; storage proofs are put into a vector that has the right length from the start; and the
roots are those of the first answer.  With state changes, the number of storage proofs is compared
with nothing: there a reply is refused for its leaves, for the diff of the execution, or by a call
of the committer (`createCommitmentInfos_isOk_iff`).

* `ownLeaves_of_strict`: after a strict run every contract has the leaf it was requested with.
* `getStorageProofs_strict_iff`: which replies are accepted although they are malformed.
-/

namespace Snip36.StorageProofs
open Support Running

/-! ### Strict runs -/

/-- A reply with the lengths its own request asks for. -/
structure WellShaped (request : StorageProofRequest) (reply : RpcStorageProof) : Prop where
  leaves : reply.contractsProof.contractLeavesData.length = request.contractAddresses.length
  storage : reply.contractsStorageProofs.length = request.contractStorageKeys.length

/-- Every reply is well shaped, and all have the same roots. -/
structure Strict (exchanges : List (StorageProofRequest × RpcStorageProof)) : Prop where
  wellShaped : ∀ x ∈ exchanges, WellShaped x.1 x.2
  roots : ∀ x ∈ exchanges, ∀ y ∈ exchanges, x.2.globalRoots = y.2.globalRoots

/-- Every contract has the class hash, the nonce and, without state changes, the storage root of
the leaf that its own request was answered with. -/
def OwnLeaves (config : StorageProofConfig)
    (exchanges : List (StorageProofRequest × RpcStorageProof)) (proofs : StorageProofs) : Prop :=
  ∀ x ∈ exchanges, ∀ (a : ContractAddress) (leaf : ContractLeafData),
    (a.key, leaf) ∈ x.1.contractAddresses.zip x.2.contractsProof.contractLeavesData →
      proofs.extendedInitialReads.classHashes.get a = some leaf.classHash ∧
        proofs.extendedInitialReads.nonces.get a = some leaf.nonce ∧
        (config.includeStateChanges = false →
          (proofs.commitmentInfos.storageTriesCommitmentInfos.get a).map (·.previousRoot)
            = some (leaf.storageRoot.getD 0))

section Strictness

variable {Output Message BaseBlockInfo : Type} {cache : StateCache}
  (c : Committer cache.StateChangesKeys) (node : ProofNode) (blockNumber : ℕ)
  (executionData : VirtualBlockExecutionData Output Message BaseBlockInfo)
  (config : StorageProofConfig)

/-- A run that ends well has been strict, and gives every contract its own leaf. -/
def StrictWhenOk : Prop :=
  ∀ proofs exchanges,
    getStorageProofs c node blockNumber executionData config [] = .ok (proofs, exchanges) →
      Strict exchanges ∧ OwnLeaves config exchanges proofs

/-! ### What the checks see -/

/-- The lengths of the united reply: its leaves are all the leaves, and its storage proofs are
those of the one reply, or as many as they should be. -/
theorem lengths_unitedReply {query : RpcStorageProofsQuery} {first : RpcStorageProof}
    {rest : List RpcStorageProof} (hlen : (first :: rest).length = (sentQueries query).length) :
    (unitedReply query first rest).contractsProof.contractLeavesData.length
        = ((first :: rest).flatMap (·.contractsProof.contractLeavesData)).length ∧
      (unitedReply query first rest).contractsStorageProofs.length
        = if countTotalKeys query ≤ maxKeysPerRequest then first.contractsStorageProofs.length
          else query.contractStorageKeys.length := by
  by_cases hk : countTotalKeys query ≤ maxKeysPerRequest
  · have hrest : rest = [] := by simpa [sentQueries, hk] using hlen
    simp [unitedReply, hk, hrest]
  · have hchunks : (first :: rest).length = (chunkQueries query maxKeysPerRequest).length := by
      simpa only [sentQueries, hk, if_false] using hlen
    simp only [unitedReply, hk, if_false]
    constructor
    · have hsnd : ((chunkQueries query maxKeysPerRequest).zip (first :: rest)).flatMap
          (fun x => x.2.contractsProof.contractLeavesData)
            = (first :: rest).flatMap (·.contractsProof.contractLeavesData) := by
        rw [← List.flatMap_map Prod.snd fun reply : RpcStorageProof =>
          reply.contractsProof.contractLeavesData, List.map_snd_zip hchunks.le]
      simp only [mergedFrom, mergeInit, List.nil_append, hsnd]
    · exact length_foldl_placeProof _ (by simp [mergeInit])

/-- A call of the committer fails: a node or a leaf of the proof is not serialized, or their
database does not take the state diff, or has no commitment infos for the keys of the reads. -/
inductive CommitterFails (rpcProof : RpcStorageProof) (reads : StateMaps)
    (stateDiff : StateDiff) : Prop where
  | serialize (item : c.Item) (e : String) (hitem : item ∈ items c rpcProof reads)
      (h : c.serialize item.2 = .error e)
  | serializeDummy (e : String) (h : c.serialize dummyNode = .error e)
  | commitBlock (db : c.DbHashMap) (e : String) (hdb : IsFactsDb c rpcProof reads db)
      (h : c.commitBlock stateDiff (rootsOf rpcProof) db = .error e)
  | write (db : c.DbHashMap) (forest : c.FilledForest) (e : String)
      (hdb : IsFactsDb c rpcProof reads db)
      (hforest : c.commitBlock stateDiff (rootsOf rpcProof) db = .ok forest)
      (h : c.write db forest = .error e)
  | createCommitmentInfos (db db' : c.DbHashMap) (forest : c.FilledForest) (e : String)
      (hdb : IsFactsDb c rpcProof reads db)
      (hforest : c.commitBlock stateDiff (rootsOf rpcProof) db = .ok forest)
      (hwrite : c.write db forest = .ok db')
      (h : c.createCommitmentInfos (rootsOf rpcProof)
        ⟨c.getContractRootHash forest, c.getCompiledClassRootHash forest⟩ db' (cache.keys reads)
          = .error e)

/-- The diff deletes a storage value, deploys a contract or declares a class. -/
def ForbiddenDiff (stateDiff : StateDiff) : Prop :=
  (∃ e ∈ stateDiff.storageUpdates.entries, ∃ u ∈ e.2.entries, u.2 = 0) ∨
    stateDiff.addressToClassHash.entries ≠ [] ∨
    stateDiff.classHashToCompiledClassHash.entries ≠ []

theorem validate_eq_ok_iff_not_forbidden (stateDiff : StateDiff) :
    validateVirtualOsStateDiff c stateDiff = .ok () ↔ ¬ ForbiddenDiff stateDiff := by
  rw [validate_eq_ok_iff, ForbiddenDiff]
  push Not
  exact Iff.rfl

/-- Committing succeeds when both calls of the committer do. -/
theorem commitStateDiff_eq_ok {db : c.DbHashMap} {roots : StateRoots} {stateDiff : StateDiff}
    {committed : c.DbHashMap × StateRoots} :
    commitStateDiff c db roots stateDiff = .ok committed ↔
      ∃ forest, c.commitBlock stateDiff roots db = .ok forest ∧
        c.write db forest = .ok committed.1 ∧
        committed.2 = ⟨c.getContractRootHash forest, c.getCompiledClassRootHash forest⟩ := by
  rw [commitStateDiff]
  constructor
  · intro h
    obtain ⟨forest, hforest, h⟩ := bind_eq_ok.mp h
    obtain ⟨db', hwrite, h⟩ := bind_eq_ok.mp h
    obtain rfl := pure_eq_ok.mp h
    exact ⟨forest, orErr_eq_ok.mp hforest, orErr_eq_ok.mp hwrite, rfl⟩
  · obtain ⟨db', roots'⟩ := committed
    rintro ⟨forest, hforest, hwrite, rfl⟩
    exact bind_eq_ok.mpr ⟨forest, orErr_eq_ok.mpr hforest,
      bind_eq_ok.mpr ⟨db', orErr_eq_ok.mpr hwrite, rfl⟩⟩

/-- A proof whose nodes and leaves are all serialized has a database. -/
theorem exists_isFactsDb {rpcProof : RpcStorageProof} {reads : StateMaps} {stateDiff : StateDiff}
    (h : ¬ CommitterFails c rpcProof reads stateDiff) : ∃ db, IsFactsDb c rpcProof reads db := by
  have hitems : ∀ item ∈ items c rpcProof reads, ∃ e, c.EntryOf item e := by
    intro item hitem
    cases hs : c.serialize item.2 with
    | error e => exact absurd (.serialize item e hitem hs) h
    | ok value => exact ⟨(item.1, value), rfl, hs⟩
  obtain ⟨es, hes⟩ := exists_forall₂ hitems
  cases hd : c.serialize dummyNode with
  | error e => exact absurd (.serializeDummy e hd) h
  | ok dummyValue => exact ⟨_, dummyValue, es, hd, hes, rfl⟩

/-- **With state changes**, commitment infos are built exactly when the diff is allowed and no call
of the committer fails. -/
theorem createCommitmentInfos_isOk_iff {rpcProof : RpcStorageProof}
    {query : RpcStorageProofsQuery} {reads stateDiff : StateMaps}
    (hlen : rpcProof.contractsProof.contractLeavesData.length = query.contractAddresses.length) :
    (∃ infos, createCommitmentInfosWithStateChanges c rpcProof query reads stateDiff
        = .ok infos) ↔
      ¬ (ForbiddenDiff (stateMapsToCommitterStateDiff cache stateDiff) ∨
        CommitterFails c rpcProof reads (stateMapsToCommitterStateDiff cache stateDiff)) := by
  rw [not_or, ← validate_eq_ok_iff_not_forbidden c]
  constructor
  · rintro ⟨infos, h⟩
    obtain ⟨hvalid, db, ⟨db', roots'⟩, _, hdb, hcommit, hinfos, rfl⟩ :=
      createCommitmentInfos_eq_ok.mp h
    obtain ⟨forest, hforest, hwrite, rfl⟩ := (commitStateDiff_eq_ok c).mp hcommit
    -- the calls are made with the one database of the proof
    have hone : ∀ {db₁}, IsFactsDb c rpcProof reads db₁ → db₁ = db := fun h₁ =>
      Except.ok.inj ((createFactsDb_eq_ok.mpr ⟨hlen, h₁⟩).symm.trans hdb)
    refine ⟨hvalid, ?_⟩
    rintro (⟨item, e, hitem, he⟩ | ⟨e, he⟩ | ⟨db₁, e, h₁, he⟩ | ⟨db₁, forest₁, e, h₁, hf, he⟩ |
      ⟨db₁, db₂, forest₁, e, h₁, hf, hw, he⟩)
    · obtain ⟨-, -, es, -, hes, -⟩ := createFactsDb_eq_ok.mp hdb
      obtain ⟨entry, -, -, hok⟩ := exists_right_of_forall₂ hes hitem
      cases hok.symm.trans he
    · obtain ⟨-, dummyValue, -, hd, -⟩ := createFactsDb_eq_ok.mp hdb
      cases hd.symm.trans he
    · obtain rfl := hone h₁
      cases hforest.symm.trans he
    · obtain rfl := hone h₁
      obtain rfl := Except.ok.inj (hforest.symm.trans hf)
      cases hwrite.symm.trans he
    · obtain rfl := hone h₁
      obtain rfl := Except.ok.inj (hforest.symm.trans hf)
      obtain rfl := Except.ok.inj (hwrite.symm.trans hw)
      cases hinfos.symm.trans he
  · rintro ⟨hvalid, hok⟩
    obtain ⟨db, hdb⟩ := exists_isFactsDb c hok
    cases hforest : c.commitBlock (stateMapsToCommitterStateDiff cache stateDiff)
        (rootsOf rpcProof) db with
    | error e => exact absurd (.commitBlock db e hdb hforest) hok
    | ok forest =>
    cases hwrite : c.write db forest with
    | error e => exact absurd (.write db forest e hdb hforest hwrite) hok
    | ok db' =>
    cases hinfos : c.createCommitmentInfos (rootsOf rpcProof)
        ⟨c.getContractRootHash forest, c.getCompiledClassRootHash forest⟩ db'
        (cache.keys reads) with
    | error e => exact absurd (.createCommitmentInfos db db' forest e hdb hforest hwrite hinfos) hok
    | ok infos =>
        exact ⟨_, createCommitmentInfos_eq_ok.mpr ⟨hvalid, db, (db', _), infos,
          createFactsDb_eq_ok.mpr ⟨hlen, hdb⟩,
          (commitStateDiff_eq_ok c).mpr ⟨forest, hforest, hwrite, rfl⟩, hinfos, rfl⟩⟩

/-- A check refuses the replies `first :: rest`: the leaves are too many or too few in all, or a
single answer has a wrong number of storage proofs, or, with state changes, the diff is forbidden
or the committer fails on the united replies. -/
def Refused (first : RpcStorageProof) (rest : List RpcStorageProof) : Prop :=
  let query := prepareQuery cache executionData
  ((first :: rest).flatMap (·.contractsProof.contractLeavesData)).length
      ≠ query.contractAddresses.length ∨
    (config.includeStateChanges = false ∧ countTotalKeys query ≤ maxKeysPerRequest ∧
      first.contractsStorageProofs.length ≠ query.contractStorageKeys.length) ∨
    (config.includeStateChanges = true ∧
      (ForbiddenDiff (stateMapsToCommitterStateDiff cache executionData.stateDiff) ∨
        CommitterFails c (unitedReply query first rest)
          (extendedInitialReads (unitedReply query first rest) query executionData.initialReads)
          (stateMapsToCommitterStateDiff cache executionData.stateDiff)))

/-- The provider accepts the union of some replies exactly when no check refuses them. -/
theorem toStorageProofs_unitedReply_isOk_iff {first : RpcStorageProof}
    {rest : List RpcStorageProof}
    (hlen : (first :: rest).length = (sentQueries (prepareQuery cache executionData)).length) :
    (∃ proofs, toStorageProofs c executionData config (prepareQuery cache executionData)
        (unitedReply (prepareQuery cache executionData) first rest) = .ok proofs) ↔
      ¬ Refused c executionData config first rest := by
  obtain ⟨hleaves, hstorage⟩ := lengths_unitedReply hlen
  rw [toStorageProofs_isOk_iff c (aligned_prepareQuery cache executionData), Refused]
  obtain ⟨state⟩ := config
  cases state with
  | true =>
      rw [← hleaves, not_or, not_not]
      refine and_congr_right fun hfits => ?_
      simpa using createCommitmentInfos_isOk_iff c hfits
  | false =>
      rw [hleaves, hstorage]
      by_cases hk : countTotalKeys (prepareQuery cache executionData) ≤ maxKeysPerRequest
      · simp [hk]
      · simp [hk]

/-! ### Strict runs keep leaves with their contracts -/

/-- Lists that are pairwise of one length are zipped pair by pair. -/
theorem zip_flatMap_of_forall₂ {α β γ δ : Type} {f : α → List γ} {g : β → List δ} {as : List α}
    {bs : List β} (h : List.Forall₂ (fun a b => (g b).length = (f a).length) as bs) :
    (as.flatMap f).zip (bs.flatMap g) = (as.zip bs).flatMap fun x => (f x.1).zip (g x.2) := by
  induction h with
  | nil => rfl
  | cons hlen _ ih =>
      rw [List.flatMap_cons, List.flatMap_cons, List.zip_append hlen.symm, ih, List.zip_cons_cons,
        List.flatMap_cons]

/-- When every reply has a leaf for each of its own addresses, an address and its leaf in the
united reply are an address and its leaf in one reply. -/
theorem zip_leaves_unitedReply {query : RpcStorageProofsQuery} {first : RpcStorageProof}
    {rest : List RpcStorageProof}
    (h : List.Forall₂ (fun sent reply => reply.contractsProof.contractLeavesData.length
      = sent.contractAddresses.length) (sentQueries query) (first :: rest)) :
    query.contractAddresses.zip (unitedReply query first rest).contractsProof.contractLeavesData
      = ((sentQueries query).zip (first :: rest)).flatMap fun x =>
          x.1.contractAddresses.zip x.2.contractsProof.contractLeavesData := by
  by_cases hk : countTotalKeys query ≤ maxKeysPerRequest
  · simp [sentQueries, unitedReply, hk]
  · have hsent : sentQueries query = chunkQueries query maxKeysPerRequest := by
      simp [sentQueries, hk]
    have hsnd : ((chunkQueries query maxKeysPerRequest).zip (first :: rest)).flatMap
        (fun x => x.2.contractsProof.contractLeavesData)
          = (first :: rest).flatMap (·.contractsProof.contractLeavesData) := by
      rw [← List.flatMap_map Prod.snd fun reply : RpcStorageProof =>
        reply.contractsProof.contractLeavesData, List.map_snd_zip]
      exact (hsent ▸ h.length_eq).ge
    rw [← zip_flatMap_of_forall₂ h, hsent,
      (flatMap_chunkQueries query (by decide)).2.1]
    simp only [unitedReply, hk, if_false, mergedFrom, mergeInit, List.nil_append, hsnd]

/-- **Leaves stay with their contracts.**  After a strict run every contract has the leaf that its
own request was answered with. -/
theorem ownLeaves_of_strict {first : RpcStorageProof} {rest : List RpcStorageProof}
    {proofs : StorageProofs}
    (hlen : (first :: rest).length = (sentQueries (prepareQuery cache executionData)).length)
    (hstrict : Strict ((sentRequests blockNumber (prepareQuery cache executionData)).zip
      (first :: rest)))
    (hto : toStorageProofs c executionData config (prepareQuery cache executionData)
      (unitedReply (prepareQuery cache executionData) first rest) = .ok proofs) :
    OwnLeaves config ((sentRequests blockNumber (prepareQuery cache executionData)).zip
      (first :: rest)) proofs := by
  set query := prepareQuery cache executionData
  have hal : query.Aligned := aligned_prepareQuery cache executionData
  obtain ⟨hleaves, hreads, hinfos⟩ := toStorageProofs_eq_ok.mp hto
  have hzip : (sentRequests blockNumber query).zip (first :: rest)
      = ((sentQueries query).zip (first :: rest)).map (Prod.map (proofRequest blockNumber) id) :=
    List.zip_map_left
  have hshape : List.Forall₂ (fun sent reply => reply.contractsProof.contractLeavesData.length
      = sent.contractAddresses.length) (sentQueries query) (first :: rest) := by
    refine List.forall₂_iff_zip.mpr ⟨hlen.symm, fun {sent reply} hmem => ?_⟩
    have hsent := (hstrict.wellShaped (proofRequest blockNumber sent, reply)
      (hzip ▸ List.mem_map.mpr ⟨(sent, reply), hmem, rfl⟩)).leaves
    simpa [proofRequest] using hsent
  intro x hx a leaf hleaf
  obtain ⟨⟨sent, reply⟩, hmem, rfl⟩ := List.mem_map.mp (hzip ▸ hx)
  -- The address and its leaf stand at one position of the united reply.
  have hunited : (a, leaf)
      ∈ query.contractAddresses.zip
          (unitedReply query first rest).contractsProof.contractLeavesData := by
    rw [zip_leaves_unitedReply hshape]
    refine List.mem_flatMap.mpr ⟨(sent, reply), hmem, ?_⟩
    have hkeys : (a.key, leaf) ∈ (sent.contractAddresses.zip
        reply.contractsProof.contractLeavesData).map (Prod.map PatriciaKey.key id) := by
      rw [← List.zip_map_left]
      exact hleaf
    obtain ⟨⟨a', leaf'⟩, hown, heq⟩ := List.mem_map.mp hkeys
    obtain ⟨ha, rfl⟩ := Prod.mk.inj heq
    rwa [← PatriciaKey.key_injective ha]
  obtain ⟨i, hi, heq⟩ := List.mem_iff_getElem.mp hunited
  obtain ⟨rfl, rfl⟩ := Prod.mk.inj ((List.getElem_zip ..).symm.trans heq)
  rw [List.length_zip] at hi
  have hi₁ : i < query.contractAddresses.length := by omega
  have hi₂ : i < (unitedReply query first rest).contractsProof.contractLeavesData.length := by omega
  rw [hreads, extendedInitialReads_eq]
  refine ⟨get_leafMap _ hal hleaves hi₁ hi₂, get_leafMap _ hal hleaves hi₁ hi₂, fun hstate => ?_⟩
  rw [hstate, if_neg Bool.false_ne_true] at hinfos
  have hproofs := length_of_createCommitmentInfosWithoutStateChanges c hinfos
  have hi₃ : i < (unitedReply query first rest).contractsStorageProofs.length := by
    rw [hproofs, hal.length_eq]; exact hi₁
  rw [createCommitmentInfosWithoutStateChanges_eq c hal hleaves hproofs] at hinfos
  rw [← Except.ok.inj hinfos, get_alignedInfos c hal hleaves hproofs hi₁ hi₂ hi₃]
  rfl

/-! ### The law -/

/-- **Which replies are silently accepted.**  A run that ends well has been strict exactly when
the node's replies to the requests of the run are, or a check refuses them. -/
theorem getStorageProofs_strict_iff :
    StrictWhenOk c node blockNumber executionData config ↔
      ∀ first rest,
        Answered node 0 (sentRequests blockNumber (prepareQuery cache executionData))
            (first :: rest) →
          Strict ((sentRequests blockNumber (prepareQuery cache executionData)).zip
              (first :: rest)) ∨
            Refused c executionData config first rest := by
  have hlength : ∀ {first rest},
      Answered node 0 (sentRequests blockNumber (prepareQuery cache executionData))
        (first :: rest) →
      (first :: rest).length = (sentQueries (prepareQuery cache executionData)).length := by
    intro first rest hans
    simpa [sentRequests] using hans.length_eq
  constructor
  · intro h first rest hans
    by_cases href : Refused c executionData config first rest
    · exact .inr href
    · obtain ⟨proofs, hto⟩ := (toStorageProofs_unitedReply_isOk_iff c executionData config
        (hlength hans)).mpr href
      exact .inl (h proofs _ (getStorageProofs_eq_ok.mpr ⟨first, rest, hans, hto, rfl⟩)).1
  · intro h proofs exchanges hrun
    obtain ⟨first, rest, hans, hto, rfl⟩ := getStorageProofs_eq_ok.mp hrun
    rcases h first rest hans with hstrict | href
    · exact ⟨hstrict,
        ownLeaves_of_strict c blockNumber executionData config (hlength hans) hstrict hto⟩
    · exact absurd href ((toStorageProofs_unitedReply_isOk_iff c executionData config
        (hlength hans)).mp ⟨proofs, hto⟩)

end Strictness

/-! ### A long answer and a short one -/

/-- 99 class hashes and two contracts, of which only nonces are read. -/
def longExecution : VirtualBlockExecutionData Unit Unit Unit where
  executionOutputs := []
  initialReads := { StateMaps.default with
    nonces := .ofList [(⟨1, by decide⟩, 0), (⟨2, by decide⟩, 0)] }
  stateDiff := .default
  executedClassHashes := (List.range 99).map (Fin.ofNat feltPrime)
  nodup_executedClassHashes := by decide +kernel
  l2ToL1Messages := []
  baseBlockInfo := ()

/-- The leaves of both contracts. -/
def bothLeaves : RpcStorageProof :=
  ⟨.empty, ⟨.empty, [⟨0, 10, none⟩, ⟨0, 20, none⟩]⟩, [], ⟨1, 1, 1⟩⟩

/-- No leaf at all. -/
def noLeaves : RpcStorageProof := ⟨.empty, ⟨.empty, []⟩, [], ⟨1, 1, 1⟩⟩

/-- Both leaves in the first answer and none in the second. -/
def shiftingNode : ProofNode
  | 0, _ => .ok bothLeaves
  | _, _ => .ok noLeaves

/-- The first request asks for the leaf of one contract. -/
theorem sentRequests_longExecution :
    ∃ r₀ r₁, sentRequests 1 (prepareQuery sampleCache longExecution) = [r₀, r₁] ∧
      r₀.contractAddresses.length = 1 := by
  have hlen : (sentRequests 1 (prepareQuery sampleCache longExecution)).length = 2 := by
    decide +kernel
  have hhead : (sentRequests 1 (prepareQuery sampleCache longExecution)).head?.map
      (·.contractAddresses.length) = some 1 := by decide +kernel
  obtain ⟨r₀, r₁, hreq⟩ := List.length_eq_two.mp hlen
  refine ⟨r₀, r₁, hreq, ?_⟩
  rw [hreq] at hhead
  simpa using hhead

theorem getStorageProofs_not_strict :
    ∃ proofs exchanges,
      getStorageProofs (sampleCommitter : Committer sampleCache.StateChangesKeys) shiftingNode 1
          longExecution ⟨false⟩ [] = .ok (proofs, exchanges) ∧
        ¬ Strict exchanges := by
  obtain ⟨r₀, r₁, hreq, hone⟩ := sentRequests_longExecution
  have hans : Answered shiftingNode 0 (sentRequests 1 (prepareQuery sampleCache longExecution))
      [bothLeaves, noLeaves] := by
    rw [hreq]
    exact .cons rfl (.cons rfl (.nil _))
  have haccepted : ¬ Refused (sampleCommitter : Committer sampleCache.StateChangesKeys)
      longExecution ⟨false⟩ bothLeaves [noLeaves] := by
    have hleaves : (prepareQuery sampleCache longExecution).contractAddresses.length = 2 := by
      decide +kernel
    have hkeys : ¬ countTotalKeys (prepareQuery sampleCache longExecution) ≤ maxKeysPerRequest := by
      decide +kernel
    rintro (h | ⟨-, h, -⟩ | ⟨h, -⟩)
    · exact h (by rw [hleaves]; rfl)
    · exact hkeys h
    · exact Bool.noConfusion h
  have hlen : [bothLeaves, noLeaves].length
      = (sentQueries (prepareQuery sampleCache longExecution)).length := by
    simpa [sentRequests] using hans.length_eq
  obtain ⟨proofs, hto⟩ :=
    (toStorageProofs_unitedReply_isOk_iff sampleCommitter longExecution ⟨false⟩ hlen).mpr haccepted
  refine ⟨proofs, _, getStorageProofs_eq_ok.mpr ⟨bothLeaves, [noLeaves], hans, hto, rfl⟩, ?_⟩
  intro hstrict
  have hshape := (hstrict.wellShaped (r₀, bothLeaves) (by rw [hreq]; simp)).leaves
  have htwo : 2 = r₀.contractAddresses.length := hshape
  omega

end Snip36.StorageProofs
