import Snip36.Running.VirtualBlock
import Snip36.StorageProofs.Provider

/-!
# Running — the hints of the virtual OS

`createVirtualOsHints` puts the transactions, the execution infos, the classes and the storage
proofs of a virtual block together, and `runVirtualOs` runs from the transactions to the OS.  The
OS takes the transactions and the execution infos as two lists in parallel.

`execute_whole_iff`: the lists are in step exactly when the transaction executor does not stop
early behind successes.
-/

namespace Snip36.Running
open Support StorageProofs

/-- `RunnerError`. -/
inductive RunnerError (TransactionHash : Type) where
  | classesProvider (msg : String)
  | proofProvider (e : ProofProviderError)
  | virtualBlockExecutor (e : VirtualBlockExecutorError TransactionHash)
  | osExecution (msg : String)
  | transactionHashError (msg : String)

section Hints

variable (b : Blockifier)

/-- `ClassesInput`. -/
structure ClassesInput where
  compiledClasses : IndexMap CompiledClassHash b.CasmContractClass
  classHashToCompiledClassHash : IndexMap ClassHash CompiledClassHash

/-- `OsChainInfo`. -/
structure OsChainInfo where
  chainId : b.ChainId
  strkFeeTokenAddress : ContractAddress

/-- `VirtualOsBlockInput`. -/
structure VirtualOsBlockInput where
  contractStateCommitmentInfo : CommitmentInfo
  addressToStorageCommitmentInfo : IndexMap ContractAddress CommitmentInfo
  contractClassCommitmentInfo : CommitmentInfo
  chainInfo : OsChainInfo b
  transactions : List (b.InvokeTransaction × b.TransactionHash)
  txExecutionInfos : List b.CentralTransactionExecutionInfo
  blockInfo : b.BlockInfo
  initialReads : StateMaps
  baseBlockHash : Felt
  baseBlockHeaderCommitments : b.BlockHeaderCommitments
  prevBaseBlockHash : Felt
  compiledClasses : IndexMap CompiledClassHash b.CasmContractClass

/-- `OsBlockInput`, its fields that are not constant. -/
structure OsBlockInput where
  blockHashCommitments : b.BlockHeaderCommitments
  contractStateCommitmentInfo : CommitmentInfo
  addressToStorageCommitmentInfo : IndexMap ContractAddress CommitmentInfo
  contractClassCommitmentInfo : CommitmentInfo
  transactions : List (b.InvokeTransaction × b.TransactionHash)
  txExecutionInfos : List b.CentralTransactionExecutionInfo
  prevBlockHash : Felt
  blockInfo : b.BlockInfo
  initialReads : StateMaps
  newBlockHash : Felt

/-- `OsHints`, its fields that are not constant. -/
structure OsHints where
  osBlockInput : OsBlockInput b
  compiledClasses : IndexMap CompiledClassHash b.CasmContractClass
  chainInfo : OsChainInfo b

end Hints

variable {b : Blockifier}

/-- `OsHints::from`. -/
def VirtualOsBlockInput.toOsHints (input : VirtualOsBlockInput b) : OsHints b where
  osBlockInput := {
    blockHashCommitments := input.baseBlockHeaderCommitments
    contractStateCommitmentInfo := input.contractStateCommitmentInfo
    addressToStorageCommitmentInfo := input.addressToStorageCommitmentInfo
    contractClassCommitmentInfo := input.contractClassCommitmentInfo
    transactions := input.transactions
    txExecutionInfos := input.txExecutionInfos
    prevBlockHash := input.prevBaseBlockHash
    blockInfo := input.blockInfo
    initialReads := input.initialReads
    newBlockHash := input.baseBlockHash }
  compiledClasses := input.compiledClasses
  chainInfo := input.chainInfo

/-- The providers of a runner: `get_classes` and `get_storage_proofs`. -/
structure Providers (b : Blockifier) where
  getClasses : List ClassHash → Except String (ClassesInput b)
  getStorageProofs :
    ℕ → ExecutionData b → StorageProofConfig → Except ProofProviderError StorageProofs

/-- `create_virtual_os_hints`. -/
def createVirtualOsHints (executionData : ExecutionData b) (providers : Providers b)
    (storageProofConfig : StorageProofConfig)
    (txs : List (b.InvokeTransaction × b.TransactionHash)) :
    Except (RunnerError b.TransactionHash) (OsHints b) := do
  let blockContext := executionData.baseBlockInfo.blockContext
  let blockNumber := b.blockNumber (b.blockInfo blockContext)
  let classes ←
    (providers.getClasses executionData.executedClassHashes).mapError .classesProvider
  let storageProofs ←
    (providers.getStorageProofs blockNumber executionData storageProofConfig).mapError
      .proofProvider
  let reads := storageProofs.extendedInitialReads
  let input : VirtualOsBlockInput b := {
    contractStateCommitmentInfo := storageProofs.commitmentInfos.contractsTrieCommitmentInfo
    addressToStorageCommitmentInfo := storageProofs.commitmentInfos.storageTriesCommitmentInfos
    contractClassCommitmentInfo := storageProofs.commitmentInfos.classesTrieCommitmentInfo
    chainInfo := ⟨b.chainId blockContext, b.strkFeeTokenAddress blockContext⟩
    transactions := txs
    txExecutionInfos := executionData.executionOutputs.map fun output => b.toCentral output.1
    blockInfo := b.blockInfo blockContext
    initialReads := { reads with
      compiledClassHashes :=
        reads.compiledClassHashes.extend classes.classHashToCompiledClassHash.entries
      declaredContracts := .empty }
    baseBlockHash := executionData.baseBlockInfo.baseBlockHash
    baseBlockHeaderCommitments := executionData.baseBlockInfo.baseBlockHeaderCommitments
    prevBaseBlockHash := executionData.baseBlockInfo.prevBaseBlockHash
    compiledClasses := classes.compiledClasses }
  pure input.toOsHints

/-- `Runner`. -/
structure Runner (b : Blockifier) where
  providers : Providers b
  virtualBlockExecutor : VirtualBlockExecutor b
  storageProofConfig : StorageProofConfig
  contractClassManager : b.ContractClassManager
  blockId : BlockId
  chainId : b.ChainId

/-- `Runner::run_virtual_os`, over the virtual OS. -/
def Runner.runVirtualOs {CairoPie : Type} (runner : Runner b)
    (runOs : OsHints b → Except String CairoPie) (txs : List b.InvokeTransaction) :
    Except (RunnerError b.TransactionHash) (CairoPie × List b.MessageToL1) := do
  let txsWithHashes ← txs.mapM fun tx => do
    let txHash ← (b.calculateTransactionHash tx runner.chainId).mapError .transactionHashError
    pure (tx, txHash)
  let executionData ←
    (runner.virtualBlockExecutor.execute runner.blockId runner.contractClassManager
      txsWithHashes).mapError .virtualBlockExecutor
  let osHints ←
    createVirtualOsHints executionData runner.providers runner.storageProofConfig txsWithHashes
  let cairoPie ← (runOs osHints).mapError .osExecution
  pure (cairoPie, executionData.l2ToL1Messages)

/-! ### Transactions and execution infos -/

/-- The two parallel lists of the hints. -/
theorem lists_of_createVirtualOsHints {executionData : ExecutionData b} {providers : Providers b}
    {storageProofConfig : StorageProofConfig}
    {txs : List (b.InvokeTransaction × b.TransactionHash)} {hints : OsHints b}
    (h : createVirtualOsHints executionData providers storageProofConfig txs = .ok hints) :
    hints.osBlockInput.transactions = txs ∧
      hints.osBlockInput.txExecutionInfos
        = executionData.executionOutputs.map fun output => b.toCentral output.1 := by
  obtain ⟨classes, -, h⟩ := bind_eq_ok.mp h
  obtain ⟨storageProofs, -, h⟩ := bind_eq_ok.mp h
  obtain rfl := pure_eq_ok.mp h
  exact ⟨rfl, rfl⟩

/-- The execution info is the one of the transaction, which did not revert. -/
def IsExecutionInfo (v : VirtualBlockExecutor b) (tx : b.InvokeTransaction × b.TransactionHash)
    (info : b.CentralTransactionExecutionInfo) : Prop :=
  ∃ output, info = b.toCentral output.1 ∧ v.IsOutput tx output ∧ b.revertError output.1 = none

/-- An execution that ends well is whole, and its hints pair every transaction with its execution
info. -/
def WholeWhenOk (v : VirtualBlockExecutor b) (blockId : BlockId)
    (contractClassManager : b.ContractClassManager)
    (txs : List (b.InvokeTransaction × b.TransactionHash)) : Prop :=
  ∀ data, v.execute blockId contractClassManager txs = .ok data →
    v.ExecutedWhole txs data.executionOutputs ∧
      ∀ providers storageProofConfig hints,
        createVirtualOsHints data providers storageProofConfig txs = .ok hints →
          List.Forall₂ (IsExecutionInfo v) hints.osBlockInput.transactions
            hints.osBlockInput.txExecutionInfos

/-- The hints of a whole execution pair every transaction with its execution info. -/
theorem paired_of_executedWhole {v : VirtualBlockExecutor b} {executionData : ExecutionData b}
    {txs : List (b.InvokeTransaction × b.TransactionHash)}
    (hwhole : v.ExecutedWhole txs executionData.executionOutputs) {providers : Providers b}
    {storageProofConfig : StorageProofConfig} {hints : OsHints b}
    (h : createVirtualOsHints executionData providers storageProofConfig txs = .ok hints) :
    List.Forall₂ (IsExecutionInfo v) hints.osBlockInput.transactions
      hints.osBlockInput.txExecutionInfos := by
  obtain ⟨htxs, hinfos⟩ := lists_of_createVirtualOsHints h
  rw [htxs, hinfos, List.forall₂_map_right_iff]
  refine List.forall₂_iff_zip.mpr ⟨hwhole.inOrder.length_eq, fun {tx output} hmem => ?_⟩
  exact ⟨output, rfl, List.forall₂_zip hwhole.inOrder hmem,
    hwhole.notReverted output (List.of_mem_zip hmem).2⟩

/-- **A virtual block is executed whole or not at all** exactly when the transaction executor does
not stop early behind successes. -/
theorem execute_whole_iff (v : VirtualBlockExecutor b) (blockId : BlockId)
    (contractClassManager : b.ContractClassManager)
    (txs : List (b.InvokeTransaction × b.TransactionHash)) :
    WholeWhenOk v blockId contractClassManager txs ↔
      ¬ v.StopsEarly blockId contractClassManager txs := by
  constructor
  · rintro h ⟨blockifierTxs, results, executor, hruns, hlt, hresults, hreadable⟩
    have hrange : results ∈ Set.range (List.map
        (Except.ok : b.TransactionExecutionOutput → Except String b.TransactionExecutionOutput)) := by
      rw [Set.range_list_map]
      intro result hresult
      obtain ⟨out, rfl, -⟩ := hresults result hresult
      exact ⟨out, rfl⟩
    obtain ⟨outputs, rfl⟩ := hrange
    rw [List.length_map] at hlt
    have hrevert : ∀ out ∈ outputs, b.revertError out.1 = none := by
      intro out hout
      obtain ⟨out', heq, hnone⟩ := hresults (.ok out) (List.mem_map.mpr ⟨out, hout, rfl⟩)
      obtain rfl := Except.ok.inj heq
      exact hnone
    have hcheck := (VirtualBlockExecutor.forall_mem_zip_iff hlt.le).mpr hrevert
    obtain ⟨data, hdata, rfl⟩ :=
      (v.execute_isOk_iff).mpr ⟨blockifierTxs, executor, hruns, hcheck, hreadable⟩
    exact absurd (h data hdata).1.inOrder.length_eq hlt.ne'
  · intro hstop data hdata
    obtain ⟨blockifierTxs, executor, hruns, hcheck, hreadable⟩ :=
      (v.execute_isOk_iff).mp ⟨data, hdata, rfl⟩
    have hle := hruns.length_le
    rw [List.length_map] at hle
    have hrevert := (VirtualBlockExecutor.forall_mem_zip_iff hle).mp hcheck
    have hlen : data.executionOutputs.length = txs.length := by
      refine hle.antisymm (Nat.le_of_not_lt fun hlt => hstop ?_)
      refine ⟨blockifierTxs, _, executor, hruns, by simpa using hlt, ?_, hreadable⟩
      intro result hresult
      obtain ⟨out, hout, rfl⟩ := List.mem_map.mp hresult
      exact ⟨out, rfl, hrevert out hout⟩
    have hwhole := VirtualBlockExecutor.executedWhole_of_length_eq hruns hlen hrevert
    exact ⟨hwhole, fun _ _ _ h => paired_of_executedWhole hwhole h⟩

/-! ### A full block -/

/-- An executor that runs as many transactions as the block has room for. -/
def roomyBlockifier : Blockifier where
  InvokeTransaction := ℕ
  TransactionHash := ℕ
  Transaction := ℕ
  TransactionExecutionInfo := ℕ
  CallInfo := Unit
  MessageToL1 := Unit
  BlockContext := ℕ
  BlockHeaderCommitments := Unit
  ContractClassManager := Unit
  StateReader := Unit
  CachedState := Unit
  TransactionExecutor := ℕ
  ChainId := Unit
  BlockInfo := ℕ
  CentralTransactionExecutionInfo := ℕ
  CasmContractClass := Unit
  maxPossibleFee _ := 0
  fromApi tx _ _ := .ok tx
  cachedState _ _ := ()
  newExecutor _ room := room
  executeTxs room txs := ((txs.take room).map fun tx => .ok (tx, .default), room)
  IsResult tx result := result = .ok (tx, .default)
  executeTxs_prefix room txs :=
    ⟨room, List.forall₂_map_right_iff.mpr (List.forall₂_same.mpr fun _ _ => rfl)⟩
  revertError _ := none
  nonOptionalCallInfos _ := []
  getSortedL2ToL1Messages _ := []
  blockState _ := some ()
  getInitialReads _ := .ok .default
  toStateDiff _ := .ok .default
  getExecutedClassHashes _ := .ok ⟨[], List.nodup_nil⟩
  chainId _ := ()
  strkFeeTokenAddress _ := ⟨0, by decide⟩
  blockInfo room := room
  blockNumber n := n
  toCentral info := info
  calculateTransactionHash tx _ := .ok tx

/-- An executor of virtual blocks with the given room. -/
def roomyExecutor (room : ℕ) : VirtualBlockExecutor roomyBlockifier where
  baseBlockInfo _ := .ok ⟨room, 0, (), 0⟩
  stateReader _ _ := .ok ()
  validateTxsEnabled := .ok true

/-- Two transactions and room for one: the execution ends well with one output. -/
theorem execute_not_whole :
    ¬ WholeWhenOk (roomyExecutor 1) .latest () [((5 : ℕ), (50 : ℕ)), ((6 : ℕ), (60 : ℕ))] := by
  intro h
  have hone : ∃ data, (roomyExecutor 1).execute .latest ()
      [((5 : ℕ), (50 : ℕ)), ((6 : ℕ), (60 : ℕ))] = .ok data ∧
        data.executionOutputs.length = 1 := ⟨_, rfl, rfl⟩
  obtain ⟨data, hdata, hlen⟩ := hone
  have hwhole := (h data hdata).1.inOrder.length_eq
  rw [hlen] at hwhole
  exact absurd hwhole (by decide)

end Snip36.Running
