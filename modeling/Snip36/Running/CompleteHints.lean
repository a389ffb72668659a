import Snip36.Running.Classes
import Snip36.StorageProofs.TrieReads

/-!
# Running — the hints are complete

The virtual OS has no state of its own: whatever the execution read has to be in its hints, with
the nodes that lead there from the roots of the block.  Four parts of the program put them
together: the execution says what was read, the node answers in pieces, the classes come from tasks
in any order, and `createVirtualOsHints` assembles the rest.

`runVirtualOs_complete`: without state changes, a run that returns a PIE ran the OS on complete
hints, an honest node is never why a run fails, and with the classes there a run is that of the OS.
-/

namespace Snip36.Running
open Support StorageProofs

variable {b : Blockifier} {cache : StateCache}

/-- The providers of an `RpcRunner`: classes come from the tasks of `getClasses`, in some order of
their ends, and storage proofs from a session with the node. -/
structure RpcProviders (k : ClassCrates b) (c : Committer cache.StateChangesKeys)
    (node : ProofNode) (providers : Providers b) : Prop where
  classes : ∀ executedClassHashes classes,
    providers.getClasses executedClassHashes = .ok classes →
      ∃ events s joined,
        Run (fetchStep k executedClassHashes) (spawned executedClassHashes) events s ∧
        s.result = some joined ∧ getClasses executedClassHashes joined = .ok classes
  storageProofs : ∀ blockNumber executionData config proofs log,
    getStorageProofs c node blockNumber executionData config [] = .ok (proofs, log) →
      providers.getStorageProofs blockNumber executionData config = .ok proofs

/-- The commitment infos of the OS input. -/
def OsBlockInput.commitmentInfos (input : OsBlockInput b) : StateCommitmentInfos where
  contractsTrieCommitmentInfo := input.contractStateCommitmentInfo
  classesTrieCommitmentInfo := input.contractClassCommitmentInfo
  storageTriesCommitmentInfos := input.addressToStorageCommitmentInfo

/-- The number of the block on which the execution ran. -/
def blockNumberOf (executionData : ExecutionData b) : ℕ :=
  b.blockNumber (b.blockInfo executionData.baseBlockInfo.blockContext)

/-- The hints have all that the execution read. -/
structure CompleteHints (k : ClassCrates b) (c : Committer cache.StateChangesKeys)
    (forest : TrieForest) (executionData : ExecutionData b)
    (txs : List (b.InvokeTransaction × b.TransactionHash)) (hints : OsHints b) : Prop where
  /-- The values, and each contract's leaf and nodes. -/
  aligned : AlignedWith c forest.oracle executionData.initialReads
    ⟨hints.osBlockInput.initialReads, hints.osBlockInput.commitmentInfos⟩
  looksUp : InfosLookUpReads c forest executionData hints.osBlockInput.commitmentInfos
  /-- The classes, by their compiled class hashes. -/
  classes : Paired k executionData.executedClassHashes
    ⟨hints.compiledClasses, hints.osBlockInput.initialReads.compiledClassHashes⟩
  undeclared : hints.osBlockInput.initialReads.declaredContracts = .empty
  transactions : hints.osBlockInput.transactions = txs
  txExecutionInfos : hints.osBlockInput.txExecutionInfos
    = executionData.executionOutputs.map fun output => b.toCentral output.1

variable {k : ClassCrates b} {c : Committer cache.StateChangesKeys} {node : ProofNode}
  {providers : Providers b} {executionData : ExecutionData b}
  {txs : List (b.InvokeTransaction × b.TransactionHash)}

/-- Classes that a provider returns are paired. -/
theorem RpcProviders.paired (h : RpcProviders k c node providers) {classes : ClassesInput b}
    (hclasses : providers.getClasses executionData.executedClassHashes = .ok classes) :
    Paired k executionData.executedClassHashes classes := by
  obtain ⟨events, s, joined, hrun, hresult, hget⟩ := h.classes _ _ hclasses
  obtain ⟨results, hjoined, hcollect⟩ := bind_eq_ok.mp hget
  obtain rfl := mapError_eq_ok.mp hjoined
  have hfetched := fetched_of_joined hrun.joined hresult
  obtain ⟨pairs, hpairs, rfl⟩ := (collectClasses_eq_ok hfetched).mp hcollect
  exact paired_of_forall₂ executionData.nodup_executedClassHashes hpairs

/-- Storage proofs say nothing about compiled classes. -/
theorem compiledClassHashes_getStorageProofs {Output Message Base : Type}
    {executionData : VirtualBlockExecutionData Output Message Base} {blockNumber : ℕ}
    {config : StorageProofConfig} {proofs : StorageProofs}
    {log : List (StorageProofRequest × RpcStorageProof)}
    (h : getStorageProofs c node blockNumber executionData config [] = .ok (proofs, log)) :
    proofs.extendedInitialReads.compiledClassHashes = .empty := by
  obtain ⟨first, rest, -, hto, -⟩ := getStorageProofs_eq_ok.mp h
  obtain ⟨-, hreads, -⟩ := toStorageProofs_eq_ok.mp hto
  rw [hreads, extendedInitialReads_eq]
  rfl

/-- **The hints are complete once the classes are there**: the storage proofs of an honest node
never fail. -/
theorem createVirtualOsHints_complete (txs : List (b.InvokeTransaction × b.TransactionHash))
    (hproviders : RpcProviders k c node providers)
    {forest : TrieForest} (hnode : forest.oracle.Honest node (blockNumberOf executionData))
    {classes : ClassesInput b}
    (hclasses : providers.getClasses executionData.executedClassHashes = .ok classes) :
    ∃ hints, createVirtualOsHints executionData providers ⟨false⟩ txs = .ok hints ∧
      CompleteHints k c forest executionData txs hints := by
  obtain ⟨proofs, log, hproofs, haligned, hlook⟩ :=
    exists_getStorageProofs (c := c) executionData hnode
  have hempty := compiledClassHashes_getStorageProofs hproofs
  refine ⟨_, bind_eq_ok.mpr ⟨classes, mapError_eq_ok.mpr hclasses, bind_eq_ok.mpr
    ⟨proofs, mapError_eq_ok.mpr (hproviders.storageProofs _ _ _ _ _ hproofs), rfl⟩⟩, ?_⟩
  have hcompiled : proofs.extendedInitialReads.compiledClassHashes.extend
      classes.classHashToCompiledClassHash.entries = classes.classHashToCompiledClassHash := by
    rw [hempty]
    exact IndexMap.ofList_entries _
  refine ⟨⟨haligned.classHashes_dom, haligned.nonces_dom, haligned.infos_dom, haligned.classHash,
    haligned.nonce, haligned.info, haligned.storage⟩, hlook, ?_, rfl, rfl, rfl⟩
  change Paired k _ ⟨classes.compiledClasses, proofs.extendedInitialReads.compiledClassHashes.extend
      classes.classHashToCompiledClassHash.entries⟩
  rw [hcompiled]
  exact hproviders.paired hclasses

/-- Hints fail only for the classes. -/
theorem createVirtualOsHints_eq_error (hproviders : RpcProviders k c node providers)
    {forest : TrieForest} (hnode : forest.oracle.Honest node (blockNumberOf executionData))
    {e : RunnerError b.TransactionHash}
    (h : createVirtualOsHints executionData providers ⟨false⟩ txs = .error e) :
    ∃ msg, e = .classesProvider msg := by
  cases hclasses : providers.getClasses executionData.executedClassHashes with
  | ok classes =>
      obtain ⟨hints, hok, -⟩ := createVirtualOsHints_complete txs hproviders hnode hclasses
      rw [hok] at h
      cases h
  | error msg =>
      rw [createVirtualOsHints, hclasses] at h
      exact ⟨msg, (Except.error.inj h).symm⟩

/-! ### Runs -/

section Runs

variable {CairoPie : Type} (runner : Runner b) (runOs : OsHints b → Except String CairoPie)
  (txs : List b.InvokeTransaction)

/-- The transactions with their hashes, and the data of their execution. -/
structure Executed (txsWithHashes : List (b.InvokeTransaction × b.TransactionHash))
    (executionData : ExecutionData b) : Prop where
  hashes : List.Forall₂ (fun tx entry => entry.1 = tx ∧
    b.calculateTransactionHash tx runner.chainId = .ok entry.2) txs txsWithHashes
  execute : runner.virtualBlockExecutor.execute runner.blockId runner.contractClassManager
    txsWithHashes = .ok executionData

variable {runner runOs txs}

/-- A run that returns a PIE has run the OS on the hints of its execution. -/
theorem runVirtualOs_eq_ok {pie : CairoPie} {messages : List b.MessageToL1} :
    runner.runVirtualOs runOs txs = .ok (pie, messages) ↔
      ∃ txsWithHashes executionData hints, Executed runner txs txsWithHashes executionData ∧
        createVirtualOsHints executionData runner.providers runner.storageProofConfig
          txsWithHashes = .ok hints ∧
        runOs hints = .ok pie ∧ messages = executionData.l2ToL1Messages := by
  rw [Runner.runVirtualOs]
  constructor
  · intro h
    obtain ⟨txsWithHashes, hhashes, h⟩ := bind_eq_ok.mp h
    obtain ⟨executionData, hexecute, h⟩ := bind_eq_ok.mp h
    obtain ⟨hints, hhints, h⟩ := bind_eq_ok.mp h
    obtain ⟨pie', hpie, h⟩ := bind_eq_ok.mp h
    obtain ⟨rfl, rfl⟩ := Prod.mk.inj (pure_eq_ok.mp h)
    refine ⟨txsWithHashes, executionData, hints, ⟨?_, mapError_eq_ok.mp hexecute⟩, hhints,
      mapError_eq_ok.mp hpie, rfl⟩
    refine (mapM_eq_ok.mp hhashes).imp fun tx entry hentry => ?_
    obtain ⟨hash, hhash, hentry⟩ := bind_eq_ok.mp hentry
    rw [← pure_eq_ok.mp hentry]
    exact ⟨rfl, mapError_eq_ok.mp hhash⟩
  · rintro ⟨txsWithHashes, executionData, hints, ⟨hhashes, hexecute⟩, hhints, hpie, rfl⟩
    refine bind_eq_ok.mpr ⟨txsWithHashes, mapM_eq_ok.mpr (hhashes.imp fun tx entry hentry => ?_),
      bind_eq_ok.mpr ⟨executionData, mapError_eq_ok.mpr hexecute,
        bind_eq_ok.mpr ⟨hints, hhints, bind_eq_ok.mpr ⟨pie, mapError_eq_ok.mpr hpie, rfl⟩⟩⟩⟩
    obtain ⟨rfl, hhash⟩ := hentry
    exact bind_eq_ok.mpr ⟨_, mapError_eq_ok.mpr hhash, rfl⟩

/-- After the execution and the hints, a run is that of the OS. -/
theorem runVirtualOs_eq_runOs
    {txsWithHashes : List (b.InvokeTransaction × b.TransactionHash)} {hints : OsHints b}
    (hex : Executed runner txs txsWithHashes executionData)
    (hhints : createVirtualOsHints executionData runner.providers runner.storageProofConfig
      txsWithHashes = .ok hints) :
    runner.runVirtualOs runOs txs
      = ((runOs hints).mapError .osExecution).map (·, executionData.l2ToL1Messages) := by
  have hhashes : (txs.mapM fun tx => do
      let txHash ← (b.calculateTransactionHash tx runner.chainId).mapError .transactionHashError
      pure (tx, txHash) : Except (RunnerError b.TransactionHash) _) = .ok txsWithHashes := by
    refine mapM_eq_ok.mpr (hex.hashes.imp fun tx entry hentry => ?_)
    obtain ⟨rfl, hhash⟩ := hentry
    exact bind_eq_ok.mpr ⟨_, mapError_eq_ok.mpr hhash, rfl⟩
  rw [Runner.runVirtualOs, hhashes]
  simp only [bind, Except.bind, hex.execute, Except.mapError, hhints]
  cases runOs hints <;> rfl

/-- Where the errors of a run come from. -/
theorem runVirtualOs_eq_error {e : RunnerError b.TransactionHash}
    (h : runner.runVirtualOs runOs txs = .error e) :
    (∃ msg, e = .transactionHashError msg) ∨ (∃ e', e = .virtualBlockExecutor e') ∨
      (∃ msg, e = .osExecution msg) ∨
      ∃ txsWithHashes executionData, createVirtualOsHints executionData runner.providers
        runner.storageProofConfig txsWithHashes = .error e := by
  rw [Runner.runVirtualOs] at h
  rcases bind_eq_error.mp h with h | ⟨txsWithHashes, -, h⟩
  · obtain ⟨tx, -, htx⟩ := mapM_eq_error h
    rcases bind_eq_error.mp htx with htx | ⟨hash, -, htx⟩
    · obtain ⟨msg, -, rfl⟩ := mapError_eq_error.mp htx
      exact .inl ⟨msg, rfl⟩
    · cases htx
  rcases bind_eq_error.mp h with h | ⟨executionData, -, h⟩
  · obtain ⟨e', -, rfl⟩ := mapError_eq_error.mp h
    exact .inr (.inl ⟨e', rfl⟩)
  rcases bind_eq_error.mp h with h | ⟨hints, -, h⟩
  · exact .inr (.inr (.inr ⟨txsWithHashes, executionData, h⟩))
  rcases bind_eq_error.mp h with h | ⟨pie, -, h⟩
  · obtain ⟨msg, -, rfl⟩ := mapError_eq_error.mp h
    exact .inr (.inr (.inl ⟨msg, rfl⟩))
  · cases h

variable (runner runOs txs) in
/-- **A PIE is made from complete hints**, without state changes, and an honest node is never why
there is none: once the transactions are executed and their classes fetched, the OS decides. -/
theorem runVirtualOs_complete (hproviders : RpcProviders k c node runner.providers)
    (hconfig : runner.storageProofConfig = ⟨false⟩) {forests : ℕ → TrieForest}
    (hnode : ∀ n, (forests n).oracle.Honest node n) :
    (∀ pie messages, runner.runVirtualOs runOs txs = .ok (pie, messages) →
        ∃ txsWithHashes executionData hints, Executed runner txs txsWithHashes executionData ∧
          CompleteHints k c (forests (blockNumberOf executionData)) executionData txsWithHashes
            hints ∧
          runOs hints = .ok pie ∧ messages = executionData.l2ToL1Messages) ∧
      (∀ e, runner.runVirtualOs runOs txs ≠ .error (.proofProvider e)) ∧
      ∀ txsWithHashes executionData classes, Executed runner txs txsWithHashes executionData →
        runner.providers.getClasses executionData.executedClassHashes = .ok classes →
        ∃ hints, CompleteHints k c (forests (blockNumberOf executionData)) executionData
            txsWithHashes hints ∧
          runner.runVirtualOs runOs txs
            = ((runOs hints).mapError .osExecution).map (·, executionData.l2ToL1Messages) := by
  refine ⟨fun pie messages h => ?_, fun e h => ?_, fun txsWithHashes executionData classes hex
    hclasses => ?_⟩
  · obtain ⟨txsWithHashes, executionData, hints, hex, hhints, hpie, hmessages⟩ :=
      runVirtualOs_eq_ok.mp h
    obtain ⟨classes, hclasses, -⟩ := bind_eq_ok.mp hhints
    obtain ⟨hints', hhints', hcomplete⟩ := createVirtualOsHints_complete txsWithHashes
      hproviders (hnode (blockNumberOf executionData)) (mapError_eq_ok.mp hclasses)
    rw [hconfig, hhints'] at hhints
    obtain rfl := Except.ok.inj hhints
    exact ⟨txsWithHashes, executionData, hints', hex, hcomplete, hpie, hmessages⟩
  · rcases runVirtualOs_eq_error h with ⟨_, h⟩ | ⟨_, h⟩ | ⟨_, h⟩ | ⟨txsWithHashes, executionData, h⟩
    · cases h
    · cases h
    · cases h
    · rw [hconfig] at h
      obtain ⟨_, h⟩ := createVirtualOsHints_eq_error hproviders (hnode _) h
      cases h
  · obtain ⟨hints, hhints, hcomplete⟩ := createVirtualOsHints_complete txsWithHashes
      hproviders (hnode (blockNumberOf executionData)) hclasses
    exact ⟨hints, hcomplete, runVirtualOs_eq_runOs hex (hconfig ▸ hhints)⟩

end Runs

/-! ### A run on a forest -/

/-- An executor whose transactions read the contract `5` and execute the class `42`. -/
def forestBlockifier : Blockifier :=
  { casmBlockifier with
    getInitialReads := fun _ => .ok forestExecution.initialReads
    getExecutedClassHashes := fun _ => .ok ⟨[42], nodup_forestClasses⟩ }

/-- Every class compiles to `5`. -/
def forestCrates : ClassCrates forestBlockifier where
  CompiledClassV0 := Empty
  CompiledClassV1 := Felt
  NativeCompiledClassV1 := Empty
  SegmentLengths := Unit
  Hints := Unit
  EntryPoints := Unit
  getCompiledClass _ := .ok (.v1 5)
  getCompiledClassHashV2 _ _ := .ok 5
  casm := Empty.elim
  iterData compiledClass := [.int compiledClass]
  bytecodeSegmentFeltSizes _ := ()
  programHintsToCasmHints _ := .ok ()
  entryPointsByType _ := ()
  casmContractClass fields := fields
  cairoNative := false
  panicText msg := msg

/-- What awaiting the task of the class `42` returned. -/
def forestJoined : Except String (List (FetchResult forestBlockifier)) :=
  ((runEvents (fetchStep forestCrates [42]) (spawned [42]) [.ends 0 none, .returnsValues]).bind
    Joining.result).getD (.ok [])

/-- The providers of a runner that executes the class `42` alone. -/
def forestProviders : Providers forestBlockifier where
  getClasses executedClassHashes :=
    if executedClassHashes = [42] then
      (getClasses executedClassHashes forestJoined).mapError fun _ => "classes"
    else .error "classes"
  getStorageProofs blockNumber executionData config :=
    match getStorageProofs (sampleCommitter : Committer sampleCache.StateChangesKeys)
      sampleForest.oracle.node blockNumber executionData config [] with
    | .ok (proofs, _) => .ok proofs
    | .error _ => .error (.rpc "storage proofs")

theorem rpcProviders_forestProviders :
    RpcProviders forestCrates (sampleCommitter : Committer sampleCache.StateChangesKeys)
      sampleForest.oracle.node forestProviders where
  classes executedClassHashes classes h := by
    simp only [forestProviders] at h
    split at h
    · rename_i heq
      subst heq
      have hrun : ∃ s, runEvents (fetchStep forestCrates [42]) (spawned [42])
          [.ends 0 none, .returnsValues] = some s ∧ s.result = some forestJoined := ⟨_, rfl, rfl⟩
      obtain ⟨s, hs, hresult⟩ := hrun
      exact ⟨_, s, forestJoined, Run.of_runEvents hs, hresult, mapError_eq_ok.mp h⟩
    · cases h
  storageProofs blockNumber executionData config proofs log h := by
    simp only [forestProviders, h]

/-- A runner over them. -/
def forestRunner : Runner forestBlockifier where
  providers := forestProviders
  virtualBlockExecutor := {
    baseBlockInfo := fun _ => .ok ⟨(1 : ℕ), 0, (), 0⟩
    stateReader := fun _ _ => .ok ()
    validateTxsEnabled := .ok true }
  storageProofConfig := ⟨false⟩
  contractClassManager := ()
  blockId := .latest
  chainId := ()

theorem runVirtualOs_complete_forestRunner :
    ∃ pie messages, forestRunner.runVirtualOs (fun hints => .ok hints) [(7 : ℕ)]
        = .ok (pie, messages) ∧
      ∃ txsWithHashes executionData hints,
        Executed forestRunner [(7 : ℕ)] txsWithHashes executionData ∧
        CompleteHints forestCrates (sampleCommitter : Committer sampleCache.StateChangesKeys)
          sampleForest executionData txsWithHashes hints ∧
        (.ok hints : Except String (OsHints forestBlockifier)) = .ok pie ∧
        messages = executionData.l2ToL1Messages := by
  have h := runVirtualOs_complete forestRunner (fun hints => .ok hints) [(7 : ℕ)]
    rpcProviders_forestProviders rfl
    (fun n => sampleForest.oracle.honest_node n)
  have hexecuted : ∃ txsWithHashes executionData,
      Executed forestRunner [(7 : ℕ)] txsWithHashes executionData ∧
      executionData.executedClassHashes = [42] :=
    ⟨[((7 : ℕ), (7 : ℕ))], _, ⟨List.Forall₂.cons ⟨rfl, rfl⟩ .nil, rfl⟩, rfl⟩
  obtain ⟨txsWithHashes, executionData, hex, h42⟩ := hexecuted
  have hclasses : ∃ classes, forestProviders.getClasses [42] = .ok classes := ⟨_, rfl⟩
  obtain ⟨classes, hclasses⟩ := hclasses
  obtain ⟨hints, -, hrun⟩ := h.2.2 txsWithHashes executionData classes hex (h42 ▸ hclasses)
  exact ⟨hints, _, hrun, h.1 hints _ hrun⟩

end Snip36.Running
