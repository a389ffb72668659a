import Snip36.Running.State
import Snip36.Support.Fallible

/-!
# Running — the execution of a virtual block

`execute` converts the transactions of a virtual block, has the transaction executor run them and
collects what the OS input needs.  The transaction executor and its state are a parameter
(`Blockifier`): it returns one result for each transaction it ran, in order, and stops without an
error entry when the block is full.

The outputs are all about transactions that ran and did not revert
(`execute_isOk_iff`), but nothing compares their number with the number of transactions:
`executedWhole_of_length_eq` needs that they are as many.
-/

namespace Snip36.Running
open Support

/-! ### The transaction executor -/

/-- `ExecutionFlags`. -/
structure ExecutionFlags where
  onlyQuery : Bool
  chargeFee : Bool
  validate : Bool
  strictNonceCheck : Bool

/-- The transaction executor, its transactions and its state. -/
structure Blockifier where
  InvokeTransaction : Type
  TransactionHash : Type
  Transaction : Type
  TransactionExecutionInfo : Type
  CallInfo : Type
  MessageToL1 : Type
  BlockContext : Type
  BlockHeaderCommitments : Type
  ContractClassManager : Type
  StateReader : Type
  CachedState : Type
  TransactionExecutor : Type
  ChainId : Type
  BlockInfo : Type
  CentralTransactionExecutionInfo : Type
  CasmContractClass : Type
  /-- `resource_bounds().max_possible_fee(tip())`. -/
  maxPossibleFee : InvokeTransaction → ℕ
  /-- `Transaction::from_api`, of an invoke transaction. -/
  fromApi : InvokeTransaction → TransactionHash → ExecutionFlags → Except String Transaction
  /-- `CachedState::new`, over a state reader with a contract manager. -/
  cachedState : StateReader → ContractClassManager → CachedState
  /-- `TransactionExecutor::new`. -/
  newExecutor : CachedState → BlockContext → TransactionExecutor
  /-- `execute_txs`, with the executor it leaves. -/
  executeTxs : TransactionExecutor → List Transaction →
    List (Except String (TransactionExecutionInfo × StateMaps)) × TransactionExecutor
  /-- The result is one that executing the transaction gave. -/
  IsResult : Transaction → Except String (TransactionExecutionInfo × StateMaps) → Prop
  /-- The results are those of a prefix of the transactions, in order. -/
  executeTxs_prefix : ∀ executor txs, ∃ n,
    List.Forall₂ IsResult (txs.take n) (executeTxs executor txs).1
  /-- `revert_error`, as a text. -/
  revertError : TransactionExecutionInfo → Option String
  nonOptionalCallInfos : TransactionExecutionInfo → List CallInfo
  getSortedL2ToL1Messages : CallInfo → List MessageToL1
  blockState : TransactionExecutor → Option CachedState
  getInitialReads : CachedState → Except String StateMaps
  /-- `to_state_diff`, its state maps. -/
  toStateDiff : CachedState → Except String StateMaps
  /-- `get_executed_class_hashes`, behind the bouncer's lock. -/
  getExecutedClassHashes :
    TransactionExecutor → Except String { hashes : List ClassHash // hashes.Nodup }
  chainId : BlockContext → ChainId
  strkFeeTokenAddress : BlockContext → ContractAddress
  blockInfo : BlockContext → BlockInfo
  blockNumber : BlockInfo → ℕ
  /-- `CentralTransactionExecutionInfo::from`. -/
  toCentral : TransactionExecutionInfo → CentralTransactionExecutionInfo
  calculateTransactionHash : InvokeTransaction → ChainId → Except String TransactionHash

namespace Blockifier

variable (b : Blockifier)

/-- `TransactionExecutionOutput`. -/
abbrev TransactionExecutionOutput := b.TransactionExecutionInfo × StateMaps

end Blockifier

/-- `BaseBlockInfo`. -/
structure BaseBlockInfo (b : Blockifier) where
  blockContext : b.BlockContext
  baseBlockHash : Felt
  baseBlockHeaderCommitments : b.BlockHeaderCommitments
  prevBaseBlockHash : Felt

/-- `VirtualBlockExecutionData`. -/
abbrev ExecutionData (b : Blockifier) :=
  VirtualBlockExecutionData b.TransactionExecutionOutput b.MessageToL1 (BaseBlockInfo b)

/-- `VirtualBlockExecutorError`. -/
inductive VirtualBlockExecutorError (TransactionHash : Type) where
  | reexecutionError (msg : String)
  | transactionExecutionError (msg : String)
  | transactionReverted (hash : TransactionHash) (reason : String)
  | stateUnavailable
  | bouncerLockError (msg : String)

/-! ### The executor of virtual blocks -/

/-- `VirtualBlockExecutor`, its required methods. -/
structure VirtualBlockExecutor (b : Blockifier) where
  baseBlockInfo : BlockId → Except (VirtualBlockExecutorError b.TransactionHash) (BaseBlockInfo b)
  stateReader : BlockId → List (b.InvokeTransaction × b.TransactionHash) →
    Except (VirtualBlockExecutorError b.TransactionHash) b.StateReader
  validateTxsEnabled : Except (VirtualBlockExecutorError b.TransactionHash) Bool

namespace VirtualBlockExecutor

variable {b : Blockifier} (v : VirtualBlockExecutor b)

/-- The closure of `convert_invoke_txs`, at one transaction. -/
def convertInvokeTx (tx : b.InvokeTransaction × b.TransactionHash) :
    Except (VirtualBlockExecutorError b.TransactionHash) b.Transaction := do
  let (invokeTx, txHash) := tx
  let validate ← v.validateTxsEnabled
  let executionFlags : ExecutionFlags := {
    onlyQuery := false
    chargeFee := 0 < b.maxPossibleFee invokeTx
    validate
    strictNonceCheck := false }
  (b.fromApi invokeTx txHash executionFlags).mapError .transactionExecutionError

/-- `convert_invoke_txs`. -/
def convertInvokeTxs (txs : List (b.InvokeTransaction × b.TransactionHash)) :
    Except (VirtualBlockExecutorError b.TransactionHash) (List b.Transaction) :=
  txs.mapM v.convertInvokeTx

/-- The check that an output, if its transaction reverted, is not passed on. -/
def checkNotReverted (entry : b.TransactionExecutionOutput × b.TransactionHash) :
    Except (VirtualBlockExecutorError b.TransactionHash) Unit :=
  match b.revertError entry.1.1 with
  | some revertError => .error (.transactionReverted entry.2 revertError)
  | none => .ok ()

/-- `execute`. -/
def execute (blockId : BlockId) (contractClassManager : b.ContractClassManager)
    (txs : List (b.InvokeTransaction × b.TransactionHash)) :
    Except (VirtualBlockExecutorError b.TransactionHash) (ExecutionData b) := do
  let baseBlockInfo ← v.baseBlockInfo blockId
  let stateReader ← v.stateReader blockId txs
  let txHashes := txs.map Prod.snd
  let blockifierTxs ← v.convertInvokeTxs txs
  let transactionExecutor :=
    b.newExecutor (b.cachedState stateReader contractClassManager) baseBlockInfo.blockContext
  let run := b.executeTxs transactionExecutor blockifierTxs
  let executionOutputs ← run.1.mapM fun result => result.mapError .transactionExecutionError
  (executionOutputs.zip txHashes).forM checkNotReverted
  let blockState ← okOr (b.blockState run.2) .stateUnavailable
  let initialReads ← (b.getInitialReads blockState).mapError .reexecutionError
  let stateDiff ← (b.toStateDiff blockState).mapError fun e =>
    .transactionExecutionError ("Failed to get state diff: " ++ e)
  let executedClassHashes ← (b.getExecutedClassHashes run.2).mapError .bouncerLockError
  let l2ToL1Messages := executionOutputs.flatMap fun (executionInfo, _) =>
    (b.nonOptionalCallInfos executionInfo).flatMap b.getSortedL2ToL1Messages
  pure {
    executionOutputs
    initialReads
    stateDiff
    executedClassHashes := executedClassHashes.1
    nodup_executedClassHashes := executedClassHashes.2
    l2ToL1Messages
    baseBlockInfo }

/-! ### What an execution that ends well has done -/

/-- Everything before `execute_txs` succeeds, and it returns `results` and leaves `executor`. -/
def Runs (blockId : BlockId) (contractClassManager : b.ContractClassManager)
    (txs : List (b.InvokeTransaction × b.TransactionHash)) (blockifierTxs : List b.Transaction)
    (results : List (Except String b.TransactionExecutionOutput))
    (executor : b.TransactionExecutor) : Prop :=
  ∃ baseBlockInfo stateReader,
    v.baseBlockInfo blockId = .ok baseBlockInfo ∧
    v.stateReader blockId txs = .ok stateReader ∧
    v.convertInvokeTxs txs = .ok blockifierTxs ∧
    b.executeTxs (b.newExecutor (b.cachedState stateReader contractClassManager)
      baseBlockInfo.blockContext) blockifierTxs = (results, executor)

/-- Everything after the check of the outputs succeeds. -/
def Readable (executor : b.TransactionExecutor) : Prop :=
  ∃ blockState initialReads stateDiff hashes,
    b.blockState executor = some blockState ∧
    b.getInitialReads blockState = .ok initialReads ∧
    b.toStateDiff blockState = .ok stateDiff ∧
    b.getExecutedClassHashes executor = .ok hashes

theorem checkNotReverted_eq_ok {entry : b.TransactionExecutionOutput × b.TransactionHash} :
    checkNotReverted entry = .ok () ↔ b.revertError entry.1.1 = none := by
  unfold checkNotReverted
  cases b.revertError entry.1.1 <;> simp

/-- **What an execution that ends well has done.** -/
theorem execute_isOk_iff {blockId : BlockId} {contractClassManager : b.ContractClassManager}
    {txs : List (b.InvokeTransaction × b.TransactionHash)}
    {outputs : List b.TransactionExecutionOutput} :
    (∃ data, v.execute blockId contractClassManager txs = .ok data ∧
        data.executionOutputs = outputs) ↔
      ∃ blockifierTxs executor,
        v.Runs blockId contractClassManager txs blockifierTxs (outputs.map .ok) executor ∧
        (∀ entry ∈ outputs.zip (txs.map Prod.snd), b.revertError entry.1.1 = none) ∧
        Readable executor := by
  constructor
  · rintro ⟨data, h, rfl⟩
    obtain ⟨baseBlockInfo, hbase, h⟩ := bind_eq_ok.mp h
    obtain ⟨stateReader, hreader, h⟩ := bind_eq_ok.mp h
    obtain ⟨blockifierTxs, hconvert, h⟩ := bind_eq_ok.mp h
    obtain ⟨outputs, hcollect, h⟩ := bind_eq_ok.mp h
    obtain ⟨hcheck, h⟩ := check_bind_eq_ok.mp h
    obtain ⟨blockState, hstate, h⟩ := bind_eq_ok.mp h
    obtain ⟨initialReads, hreads, h⟩ := bind_eq_ok.mp h
    obtain ⟨stateDiff, hdiff, h⟩ := bind_eq_ok.mp h
    obtain ⟨hashes, hhashes, h⟩ := bind_eq_ok.mp h
    obtain rfl := pure_eq_ok.mp h
    refine ⟨blockifierTxs, _, ⟨baseBlockInfo, stateReader, hbase, hreader, hconvert,
      Prod.ext (mapM_mapError_eq_ok.mp hcollect) rfl⟩, ?_, blockState, initialReads, stateDiff,
      hashes, okOr_eq_ok.mp hstate, mapError_eq_ok.mp hreads, mapError_eq_ok.mp hdiff,
      mapError_eq_ok.mp hhashes⟩
    intro entry he
    exact checkNotReverted_eq_ok.mp (forM_eq_ok.mp hcheck entry he)
  · rintro ⟨blockifierTxs, executor, ⟨baseBlockInfo, stateReader, hbase, hreader, hconvert, hrun⟩,
      hrevert, blockState, initialReads, stateDiff, hashes, hstate, hreads, hdiff, hhashes⟩
    have hresults : (b.executeTxs (b.newExecutor (b.cachedState stateReader contractClassManager)
        baseBlockInfo.blockContext) blockifierTxs).1 = outputs.map .ok := by
      rw [hrun]
    have hexecutor : (b.executeTxs (b.newExecutor (b.cachedState stateReader contractClassManager)
        baseBlockInfo.blockContext) blockifierTxs).2 = executor := by
      rw [hrun]
    have hcheck : (outputs.zip (txs.map Prod.snd)).forM checkNotReverted = .ok () :=
      forM_eq_ok.mpr fun entry he => checkNotReverted_eq_ok.mpr (hrevert entry he)
    refine ⟨_, bind_eq_ok.mpr ⟨_, hbase, bind_eq_ok.mpr ⟨_, hreader, bind_eq_ok.mpr ⟨_, hconvert,
      bind_eq_ok.mpr ⟨_, mapM_mapError_eq_ok.mpr hresults, check_bind_eq_ok.mpr ⟨hcheck,
      bind_eq_ok.mpr ⟨blockState, okOr_eq_ok.mpr ?_, bind_eq_ok.mpr ⟨_, mapError_eq_ok.mpr hreads,
      bind_eq_ok.mpr ⟨_, mapError_eq_ok.mpr hdiff,
      bind_eq_ok.mpr ⟨hashes, mapError_eq_ok.mpr ?_, rfl⟩⟩⟩⟩⟩⟩⟩⟩⟩, rfl⟩
    · rw [hexecutor]; exact hstate
    · rw [hexecutor]; exact hhashes

/-! ### Whole executions -/

/-- The output is one that executing the transaction gave. -/
def IsOutput (tx : b.InvokeTransaction × b.TransactionHash) (out : b.TransactionExecutionOutput) :
    Prop :=
  ∃ blockifierTx, v.convertInvokeTx tx = .ok blockifierTx ∧ b.IsResult blockifierTx (.ok out)

/-- Every transaction has its output, in order, and none reverted. -/
structure ExecutedWhole (txs : List (b.InvokeTransaction × b.TransactionHash))
    (outputs : List b.TransactionExecutionOutput) : Prop where
  inOrder : List.Forall₂ v.IsOutput txs outputs
  notReverted : ∀ out ∈ outputs, b.revertError out.1 = none

/-- The executor stops early behind successes: it returns fewer results than there are
transactions, each of a transaction that did not revert, and leaves a readable state. -/
def StopsEarly (blockId : BlockId) (contractClassManager : b.ContractClassManager)
    (txs : List (b.InvokeTransaction × b.TransactionHash)) : Prop :=
  ∃ blockifierTxs results executor,
    v.Runs blockId contractClassManager txs blockifierTxs results executor ∧
    results.length < txs.length ∧
    (∀ result ∈ results, ∃ out, result = .ok out ∧ b.revertError out.1 = none) ∧
    Readable executor

section Whole

variable {v} {blockId : BlockId} {contractClassManager : b.ContractClassManager}
  {txs : List (b.InvokeTransaction × b.TransactionHash)} {blockifierTxs : List b.Transaction}
  {results : List (Except String b.TransactionExecutionOutput)} {executor : b.TransactionExecutor}
  {outputs : List b.TransactionExecutionOutput}

/-- The results are those of a prefix of the converted transactions. -/
theorem Runs.prefix (h : v.Runs blockId contractClassManager txs blockifierTxs results executor) :
    ∃ n, List.Forall₂ b.IsResult (blockifierTxs.take n) results := by
  obtain ⟨baseBlockInfo, stateReader, -, -, -, hrun⟩ := h
  obtain ⟨n, hn⟩ := b.executeTxs_prefix (b.newExecutor
    (b.cachedState stateReader contractClassManager) baseBlockInfo.blockContext) blockifierTxs
  rw [hrun] at hn
  exact ⟨n, hn⟩

/-- The conversion is transaction by transaction. -/
theorem Runs.converted
    (h : v.Runs blockId contractClassManager txs blockifierTxs results executor) :
    List.Forall₂ (fun tx blockifierTx => v.convertInvokeTx tx = .ok blockifierTx) txs
      blockifierTxs := by
  obtain ⟨_, _, -, -, hconvert, -⟩ := h
  exact mapM_eq_ok.mp hconvert

/-- There are at most as many results as transactions. -/
theorem Runs.length_le
    (h : v.Runs blockId contractClassManager txs blockifierTxs results executor) :
    results.length ≤ txs.length := by
  obtain ⟨n, hn⟩ := h.prefix
  rw [← hn.length_eq, h.converted.length_eq]
  exact List.length_take_le' n _

/-- A check of each output with its hash is a check of every output. -/
theorem forall_mem_zip_iff (hlen : outputs.length ≤ txs.length) :
    (∀ entry ∈ outputs.zip (txs.map Prod.snd), b.revertError entry.1.1 = none) ↔
      ∀ out ∈ outputs, b.revertError out.1 = none := by
  have hfst : (outputs.zip (txs.map Prod.snd)).map Prod.fst = outputs :=
    List.map_fst_zip (by simpa using hlen)
  constructor
  · intro h out hout
    rw [← hfst] at hout
    obtain ⟨entry, hentry, rfl⟩ := List.mem_map.mp hout
    exact h entry hentry
  · intro h entry hentry
    exact h entry.1 (List.of_mem_zip hentry).1

/-- **An execution with as many outputs as transactions is whole.** -/
theorem executedWhole_of_length_eq
    (h : v.Runs blockId contractClassManager txs blockifierTxs (outputs.map .ok) executor)
    (hlen : outputs.length = txs.length)
    (hrevert : ∀ out ∈ outputs, b.revertError out.1 = none) : v.ExecutedWhole txs outputs := by
  refine ⟨?_, hrevert⟩
  obtain ⟨n, hn⟩ := h.prefix
  have hconverted := h.converted
  have hall : blockifierTxs.take n = blockifierTxs := by
    have htake := hn.length_eq
    rw [List.length_map, hlen, hconverted.length_eq] at htake
    rw [List.take_eq_self_iff]
    rw [List.length_take] at htake
    omega
  rw [hall, List.forall₂_map_right_iff] at hn
  refine List.forall₂_iff_get.mpr ⟨hlen.symm, fun i hi hi' => ?_⟩
  have hib : i < blockifierTxs.length := hconverted.length_eq ▸ hi
  exact ⟨blockifierTxs.get ⟨i, hib⟩, hconverted.get hi hib, hn.get hib hi'⟩

end Whole

end VirtualBlockExecutor

end Snip36.Running
