import Snip36.StorageProofs.Provider
import Snip36.Support.Grouping

/-!
# Storage proofs — the state changes that are committed

A state diff is converted to the committer's, checked, and only then committed
(`createCommitmentInfos_eq_ok`).  The check reads the converted diff, in which storage writes are
grouped by address; it passes exactly when no write of the execution is a deletion and no class
is deployed or declared, and then the converted diff holds every nonce and every storage write
once, and nothing else (`validate_converted_iff`, `converted_holds_writes`).
-/

namespace Snip36.StorageProofs
open Support Running

/-- `StorageDiff::from` groups storage writes by their addresses. -/
def GroupsByAddress (cache : StateCache) : Prop :=
  ∀ storage, Grouping storage (cache.storageDiff storage)

theorem groupsByAddress_sampleCache : GroupsByAddress sampleCache :=
  fun storage => grouping_group storage

/-- Nothing is deleted, deployed or declared. -/
structure Permitted (stateMaps : StateMaps) : Prop where
  noDeletion : ∀ write ∈ stateMaps.storage.entries, write.2 ≠ 0
  noDeployment : stateMaps.classHashes.entries = []
  noDeclaration : stateMaps.compiledClassHashes.entries = []

/-- The diff holds the nonces and the storage writes of `stateMaps`, and nothing else. -/
structure HoldsWrites (stateMaps : StateMaps) (stateDiff : StateDiff) : Prop where
  nonces : stateDiff.addressToNonce.entries = stateMaps.nonces.entries
  writes : (ungroup stateDiff.storageUpdates).Perm stateMaps.storage.entries
  nonemptyUpdates : ∀ e ∈ stateDiff.storageUpdates.entries, e.2.entries ≠ []
  classHashes : stateDiff.addressToClassHash.entries = []
  compiledClassHashes : stateDiff.classHashToCompiledClassHash.entries = []

section Converted

variable {cache : StateCache} (hcache : GroupsByAddress cache) {Keys : Type} (c : Committer Keys)
  (stateMaps : StateMaps)
include hcache

/-- The converted diff passes the check exactly when the diff is permitted. -/
theorem validate_converted_iff :
    validateVirtualOsStateDiff c (stateMapsToCommitterStateDiff cache stateMaps) = .ok () ↔
      Permitted stateMaps := by
  rw [validate_eq_ok_iff]
  have hwrites := (hcache stateMaps.storage).forall_iff fun value => value ≠ 0
  constructor
  · rintro ⟨hupdates, hclasses, hcompiled⟩
    exact ⟨hwrites.mp hupdates, hclasses, hcompiled⟩
  · rintro ⟨hno, hclasses, hcompiled⟩
    exact ⟨hwrites.mpr hno, hclasses, hcompiled⟩

/-- The converted diff of a permitted diff holds its writes. -/
theorem converted_holds_writes {stateMaps : StateMaps} (h : Permitted stateMaps) :
    HoldsWrites stateMaps (stateMapsToCommitterStateDiff cache stateMaps) where
  nonces := rfl
  writes := (hcache stateMaps.storage).perm
  nonemptyUpdates := (hcache stateMaps.storage).ne_empty
  classHashes := h.noDeployment
  compiledClassHashes := h.noDeclaration

end Converted

/-- The roots of a proof. -/
def rootsOf (rpcProof : RpcStorageProof) : StateRoots :=
  ⟨rpcProof.globalRoots.contractsTreeRoot, rpcProof.globalRoots.classesTreeRoot⟩

/-- Commitment infos with the nodes of a proof's classes trie among the facts. -/
def extendClassesFacts {Keys : Type} (c : Committer Keys) (rpcProof : RpcStorageProof)
    (infos : StateCommitmentInfos) : StateCommitmentInfos :=
  { infos with
    classesTrieCommitmentInfo := { infos.classesTrieCommitmentInfo with
      commitmentFacts := infos.classesTrieCommitmentInfo.commitmentFacts.extend
        (flattenNodes c rpcProof.classesProof).entries } }

/-- What building commitment infos comes to: the database, the check, the commitment of the
converted diff, and the infos of what is committed. -/
theorem createCommitmentInfos_eq_ok {cache : StateCache} {c : Committer cache.StateChangesKeys}
    {rpcProof : RpcStorageProof} {query : RpcStorageProofsQuery}
    {extendedInitialReads stateDiff : StateMaps} {infos : StateCommitmentInfos} :
    createCommitmentInfosWithStateChanges c rpcProof query extendedInitialReads stateDiff
        = .ok infos ↔
      validateVirtualOsStateDiff c (stateMapsToCommitterStateDiff cache stateDiff) = .ok () ∧
        ∃ factsDb committed committedInfos,
          createFactsDbFromStorageProof c rpcProof query extendedInitialReads = .ok factsDb ∧
          commitStateDiff c factsDb (rootsOf rpcProof)
            (stateMapsToCommitterStateDiff cache stateDiff) = .ok committed ∧
          c.createCommitmentInfos (rootsOf rpcProof) committed.2 committed.1
            (cache.keys extendedInitialReads) = .ok committedInfos ∧
          infos = extendClassesFacts c rpcProof committedInfos := by
  rw [createCommitmentInfosWithStateChanges]
  constructor
  · intro h
    obtain ⟨factsDb, hdb, h⟩ := bind_eq_ok.mp h
    obtain ⟨hvalid, h⟩ := check_bind_eq_ok.mp h
    obtain ⟨committed, hcommit, h⟩ := bind_eq_ok.mp h
    obtain ⟨committedInfos, hinfos, h⟩ := bind_eq_ok.mp h
    exact ⟨hvalid, factsDb, committed, committedInfos, hdb, hcommit, orErr_eq_ok.mp hinfos,
      (pure_eq_ok.mp h).symm⟩
  · rintro ⟨hvalid, factsDb, committed, committedInfos, hdb, hcommit, hinfos, rfl⟩
    refine bind_eq_ok.mpr ⟨factsDb, hdb, check_bind_eq_ok.mpr ⟨hvalid, ?_⟩⟩
    exact bind_eq_ok.mpr ⟨committed, hcommit,
      bind_eq_ok.mpr ⟨committedInfos, orErr_eq_ok.mpr hinfos, rfl⟩⟩

/-- **Only permitted changes are committed, and none of them is lost.** -/
theorem permitted_changes_committed {cache : StateCache} (hcache : GroupsByAddress cache)
    (c : Committer cache.StateChangesKeys) (stateMaps : StateMaps) :
    let converted := stateMapsToCommitterStateDiff cache stateMaps
    (validateVirtualOsStateDiff c converted = .ok () ↔ Permitted stateMaps) ∧
      (Permitted stateMaps → HoldsWrites stateMaps converted) ∧
      ∀ rpcProof query extendedInitialReads infos,
        createCommitmentInfosWithStateChanges c rpcProof query extendedInitialReads stateMaps
          = .ok infos →
        Permitted stateMaps ∧ ∃ factsDb committed committedInfos,
          createFactsDbFromStorageProof c rpcProof query extendedInitialReads = .ok factsDb ∧
          commitStateDiff c factsDb (rootsOf rpcProof) converted = .ok committed ∧
          c.createCommitmentInfos (rootsOf rpcProof) committed.2 committed.1
            (cache.keys extendedInitialReads) = .ok committedInfos ∧
          infos = extendClassesFacts c rpcProof committedInfos := by
  refine ⟨validate_converted_iff hcache c stateMaps, converted_holds_writes hcache, ?_⟩
  intro rpcProof query extendedInitialReads infos h
  obtain ⟨hvalid, hcommitted⟩ := createCommitmentInfos_eq_ok.mp h
  exact ⟨(validate_converted_iff hcache c stateMaps).mp hvalid, hcommitted⟩

/-- Two writes to one contract and one to another, with a nonce. -/
def threeWrites : StateMaps :=
  { StateMaps.default with
    nonces := .ofList [(.ofByte 1, 4)]
    storage := .ofList [
      ((.ofByte 1, .ofByte 2), 7), ((.ofByte 3, .ofByte 2), 8), ((.ofByte 1, .ofByte 5), 9)] }

theorem permitted_threeWrites : Permitted threeWrites where
  noDeletion := by decide +kernel
  noDeployment := rfl
  noDeclaration := rfl

theorem threeWrites_committed :
    validateVirtualOsStateDiff (sampleCommitter : Committer sampleCache.StateChangesKeys)
        (stateMapsToCommitterStateDiff sampleCache threeWrites) = .ok () ∧
      HoldsWrites threeWrites (stateMapsToCommitterStateDiff sampleCache threeWrites) := by
  obtain ⟨hvalid, hholds, -⟩ :=
    permitted_changes_committed groupsByAddress_sampleCache sampleCommitter threeWrites
  exact ⟨hvalid.mpr permitted_threeWrites, hholds permitted_threeWrites⟩

end Snip36.StorageProofs
