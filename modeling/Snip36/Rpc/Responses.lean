import Snip36.Artifacts.Provers
import Snip36.Rpc.Concurrency
import Snip36.Running.OsHints

/-!
# Rpc — what `starknet_proveTransaction` responds

A request takes a permit, is checked, runs through the virtual OS and is proved; the first of these
that fails decides the error object.  The runner and the prover are parameters.

`proveTransaction_table`: which code a request gets and when.  The errors of the runner and of the
prover, an unknown block among them, are internal errors, which the API document does not list; the
code `55` that it lists is never sent.
-/

namespace Snip36.Rpc
open Support Running StorageProofs Artifacts

/-! ### Errors -/

/-- `ProvingError`. -/
inductive ProvingError where
  | proverExecution (msg : String)
  | taskJoin (msg : String)

/-- `VirtualSnosProverError`, those of the checks apart. -/
inductive VirtualSnosProverError (TransactionHash : Type) where
  | input (e : Artifacts.VirtualSnosProverError)
  | runnerError (e : RunnerError TransactionHash)
  | provingError (e : ProvingError)
  | programOutputError (msg : String)

/-- The text of a `ProofProviderError`. -/
def proofProviderText : ProofProviderError → String
  | .invalidStateDiff msg => "Invalid state diff: " ++ msg
  | .rpc msg => "RPC provider error: " ++ msg
  | .serializationError msg => msg
  | .invalidProofResponse msg => "Invalid RPC proof response: " ++ msg
  | .blockCommitmentError msg => "Block commitment error: " ++ msg

/-- The text of a `VirtualBlockExecutorError`, with that of a hash. -/
def virtualBlockExecutorText {TransactionHash : Type} (debugHash : TransactionHash → String) :
    VirtualBlockExecutorError TransactionHash → String
  | .reexecutionError msg => msg
  | .transactionExecutionError msg => "Transaction execution failed: " ++ msg
  | .transactionReverted hash reason =>
      "Reverted transactions are not supported; hash: " ++ debugHash hash ++ ", revert reason: "
        ++ reason
  | .stateUnavailable => "Block state unavailable after execution"
  | .bouncerLockError msg => "Failed to acquire bouncer lock: " ++ msg

/-- The text of a `RunnerError`. -/
def runnerText {TransactionHash : Type} (debugHash : TransactionHash → String) :
    RunnerError TransactionHash → String
  | .classesProvider msg => msg
  | .proofProvider e => proofProviderText e
  | .virtualBlockExecutor e => virtualBlockExecutorText debugHash e
  | .osExecution msg => msg
  | .transactionHashError msg => "Failed to calculate transaction hash: " ++ msg

/-- The text of a `ProvingError`. -/
def provingText : ProvingError → String
  | .proverExecution msg => "Prover execution failed: " ++ msg
  | .taskJoin msg => "Proving task failed to join: " ++ msg

/-- `block_not_found`. -/
def blockNotFound : ErrorObjectOwned := ⟨24, "Block not found", none⟩

/-- `validation_failure`. -/
def validationFailure (data : String) : ErrorObjectOwned :=
  ⟨55, "Account validation failed", some data⟩

/-- `unsupported_tx_version`. -/
def unsupportedTxVersion (data : String) : ErrorObjectOwned :=
  ⟨61, "The transaction version is not supported", some data⟩

/-- `invalid_transaction_input`. -/
def invalidTransactionInput (data : String) : ErrorObjectOwned :=
  ⟨1000, "Invalid transaction input", some data⟩

/-- `internal_server_error`. -/
def internalServerError (err : String) : ErrorObjectOwned := ⟨-32603, "Internal error", some err⟩

/-- `ErrorObjectOwned::from`. -/
def errorObject {TransactionHash : Type} (debugHash : TransactionHash → String) :
    VirtualSnosProverError TransactionHash → ErrorObjectOwned
  | .input (.invalidTransactionType msg) => unsupportedTxVersion msg
  | .input (.invalidTransactionInput msg) => invalidTransactionInput msg
  | .input (.validationError msg) =>
      if "Pending".toList <:+: msg.toList then blockNotFound else validationFailure msg
  | .runnerError e => internalServerError (runnerText debugHash e)
  | .provingError e => internalServerError (provingText e)
  | .programOutputError msg => internalServerError msg

/-- The errors that the API document lists for the method, with their messages. -/
def listedErrors : List (ℤ × String) := [
  (24, "Block not found"),
  (55, "Account validation failed"),
  (61, "The transaction version is not supported"),
  (-32005, "Service is busy"),
  (1000, "Invalid transaction input")]

/-! ### The method -/

/-- `VirtualSnosProver`, over its runner and the privacy prover. -/
structure VirtualSnosProver (api : StarknetApi) (b : Blockifier) where
  CairoPie : Type
  Proof : Type
  ProgramOutput : Type
  ProofFacts : Type
  config : ProverConfig api
  /-- `InvokeTransaction::V3`, of a transaction of the RPC. -/
  invokeV3 : api.RpcInvokeTransactionV3 → b.InvokeTransaction
  /-- `VirtualSnosRunner::run_virtual_os`. -/
  runVirtualOs : BlockId → List b.InvokeTransaction →
    Except (RunnerError b.TransactionHash) (CairoPie × List b.MessageToL1)
  /-- `prove`. -/
  prove : CairoPie → Except ProvingError (Proof × ProgramOutput)
  /-- `try_into_proof_facts`, at `VIRTUAL_SNOS`. -/
  tryIntoProofFacts : ProgramOutput → Except String ProofFacts

variable {api : StarknetApi} {b : Blockifier}

/-- `ProveTransactionResult`. -/
structure ProveTransactionResult (p : VirtualSnosProver api b) where
  proof : p.Proof
  proofFacts : p.ProofFacts
  l2ToL1Messages : List b.MessageToL1

namespace VirtualSnosProver

variable (p : VirtualSnosProver api b)

/-- `prove_virtual_snos_run`. -/
def proveVirtualSnosRun (runnerOutput : p.CairoPie × List b.MessageToL1) :
    Except (VirtualSnosProverError b.TransactionHash) (ProveTransactionResult p) := do
  let (proof, programOutput) ← (p.prove runnerOutput.1).mapError .provingError
  let proofFacts ← (p.tryIntoProofFacts programOutput).mapError .programOutputError
  pure ⟨proof, proofFacts, runnerOutput.2⟩

/-- `prove_transaction`, after its checks. -/
def runAndProve (blockId : BlockId) (invokeV3 : api.RpcInvokeTransactionV3) :
    Except (VirtualSnosProverError b.TransactionHash) (ProveTransactionResult p) := do
  let runnerOutput ← (p.runVirtualOs blockId [p.invokeV3 invokeV3]).mapError .runnerError
  p.proveVirtualSnosRun runnerOutput

/-- `VirtualSnosProver::prove_transaction`. -/
def proveTransaction (blockId : BlockId)
    (transaction : RpcTransaction api.RpcInvokeTransactionV3) :
    Except (VirtualSnosProverError b.TransactionHash) (ProveTransactionResult p) := do
  let invokeV3 ← (checkedInput ⟨p.config, blockId, transaction⟩).mapError .input
  p.runAndProve blockId invokeV3

end VirtualSnosProver

/-- `ProvingRpcServerImpl::prove_transaction`, with as many permits left as `permits`. -/
def proveTransaction (p : VirtualSnosProver api b) (debugHash : b.TransactionHash → String)
    (maxConcurrentRequests permits : ℕ) (blockId : BlockId)
    (transaction : RpcTransaction api.RpcInvokeTransactionV3) :
    Except ErrorObjectOwned (ProveTransactionResult p) :=
  if permits = 0 then .error (serviceBusy maxConcurrentRequests)
  else (p.proveTransaction blockId transaction).mapError (errorObject debugHash)

/-! ### The table -/

/-- The code of a response that is an error. -/
def errorCode {α : Type} : Except ErrorObjectOwned α → Option ℤ
  | .ok _ => none
  | .error e => some e.code

/-- The transaction has no proof and no proof facts, and no fee where that is checked. -/
def InputOk (p : VirtualSnosProver api b) (tx : api.RpcInvokeTransactionV3) : Prop :=
  api.proofIsEmpty tx = true ∧ api.proofFactsIsEmpty tx = true ∧
    (p.config.validateZeroFeeFields = true → api.maxPossibleFee tx = 0)

/-- The run of the transaction is proved, with the result `r`. -/
def Proves (p : VirtualSnosProver api b) (blockId : BlockId) (tx : api.RpcInvokeTransactionV3)
    (r : ProveTransactionResult p) : Prop :=
  ∃ cairoPie programOutput,
    p.runVirtualOs blockId [p.invokeV3 tx] = .ok (cairoPie, r.l2ToL1Messages) ∧
      p.prove cairoPie = .ok (r.proof, programOutput) ∧
      p.tryIntoProofFacts programOutput = .ok r.proofFacts

/-- What a request is answered with, and when. -/
structure ResponseTable (p : VirtualSnosProver api b) (permits : ℕ) (blockId : BlockId)
    (transaction : RpcTransaction api.RpcInvokeTransactionV3)
    (response : Except ErrorObjectOwned (ProveTransactionResult p)) : Prop where
  proved : ∀ r, response = .ok r ↔ permits ≠ 0 ∧ blockId ≠ .pending ∧
    ∃ tx, transaction = .invoke tx ∧ InputOk p tx ∧ Proves p blockId tx r
  busy : errorCode response = some (-32005) ↔ permits = 0
  blockNotFound : errorCode response = some 24 ↔ permits ≠ 0 ∧ blockId = .pending
  unsupported : errorCode response = some 61 ↔ permits ≠ 0 ∧ blockId ≠ .pending ∧
    ∀ tx, transaction ≠ .invoke tx
  invalidInput : errorCode response = some 1000 ↔ permits ≠ 0 ∧ blockId ≠ .pending ∧
    ∃ tx, transaction = .invoke tx ∧ ¬ InputOk p tx
  internal : errorCode response = some (-32603) ↔ permits ≠ 0 ∧ blockId ≠ .pending ∧
    ∃ tx, transaction = .invoke tx ∧ InputOk p tx ∧ ∀ r, ¬ Proves p blockId tx r
  listed : ∀ e, response = .error e → e.code ≠ 55 ∧
    ((e.code, e.message) ∈ listedErrors ∨ (e.code, e.message) = (-32603, "Internal error"))

/-- What comes of a request. -/
inductive Outcome (p : VirtualSnosProver api b) (permits : ℕ) (blockId : BlockId)
    (transaction : RpcTransaction api.RpcInvokeTransactionV3) :
    Except ErrorObjectOwned (ProveTransactionResult p) → Prop where
  | busy {maxConcurrentRequests : ℕ} (hpermits : permits = 0) :
      Outcome p permits blockId transaction (.error (serviceBusy maxConcurrentRequests))
  | pending (hpermits : permits ≠ 0) (hblock : blockId = .pending) :
      Outcome p permits blockId transaction (.error blockNotFound)
  | unsupported {msg : String} (hpermits : permits ≠ 0) (hblock : blockId ≠ .pending)
      (htx : ∀ tx, transaction ≠ .invoke tx) :
      Outcome p permits blockId transaction (.error (unsupportedTxVersion msg))
  | invalidInput {msg : String} {tx : api.RpcInvokeTransactionV3} (hpermits : permits ≠ 0)
      (hblock : blockId ≠ .pending) (htx : transaction = .invoke tx) (hinput : ¬ InputOk p tx) :
      Outcome p permits blockId transaction (.error (invalidTransactionInput msg))
  | internal {msg : String} {tx : api.RpcInvokeTransactionV3} (hpermits : permits ≠ 0)
      (hblock : blockId ≠ .pending) (htx : transaction = .invoke tx) (hinput : InputOk p tx)
      (hfails : ∀ r, ¬ Proves p blockId tx r) :
      Outcome p permits blockId transaction (.error (internalServerError msg))
  | proved {r : ProveTransactionResult p} {tx : api.RpcInvokeTransactionV3} (hpermits : permits ≠ 0)
      (hblock : blockId ≠ .pending) (htx : transaction = .invoke tx) (hinput : InputOk p tx)
      (hproves : Proves p blockId tx r) :
      Outcome p permits blockId transaction (.ok r)

/-- What the input check accepts. -/
theorem validateTransactionInput_iff (p : VirtualSnosProver api b)
    {tx : api.RpcInvokeTransactionV3} :
    validateTransactionInput tx p.config.validateZeroFeeFields = .ok () ↔ InputOk p tx := by
  rw [validateTransactionInput, check_bind_eq_ok, check_bind_eq_ok, failIf_eq_ok, failIf_eq_ok,
    failIf_eq_ok, Bool.not_eq_false, Bool.not_eq_false, not_and, not_not]
  rfl

/-- What the input check rejects is invalid input. -/
theorem invalidInput_of_error {tx : api.RpcInvokeTransactionV3} {validateZeroFeeFields : Bool}
    {e : Artifacts.VirtualSnosProverError}
    (h : validateTransactionInput tx validateZeroFeeFields = .error e) :
    ∃ msg, e = .invalidTransactionInput msg := by
  rcases bind_eq_error.mp h with h | ⟨-, -, h⟩
  · exact ⟨_, (failIf_eq_error.mp h).2⟩
  · rcases bind_eq_error.mp h with h | ⟨-, -, h⟩
    · exact ⟨_, (failIf_eq_error.mp h).2⟩
    · exact ⟨_, (failIf_eq_error.mp h).2⟩

/-- A run that is proved. -/
theorem runAndProve_eq_ok (p : VirtualSnosProver api b) {blockId : BlockId}
    {tx : api.RpcInvokeTransactionV3} {r : ProveTransactionResult p} :
    p.runAndProve blockId tx = .ok r ↔ Proves p blockId tx r := by
  rw [VirtualSnosProver.runAndProve, bind_eq_ok]
  constructor
  · rintro ⟨⟨cairoPie, messages⟩, hrun, h⟩
    obtain ⟨⟨proof, programOutput⟩, hprove, h⟩ := bind_eq_ok.mp h
    obtain ⟨proofFacts, hfacts, h⟩ := bind_eq_ok.mp h
    obtain rfl := pure_eq_ok.mp h
    exact ⟨cairoPie, programOutput, mapError_eq_ok.mp hrun, mapError_eq_ok.mp hprove,
      mapError_eq_ok.mp hfacts⟩
  · rintro ⟨cairoPie, programOutput, hrun, hprove, hfacts⟩
    refine ⟨_, mapError_eq_ok.mpr hrun, ?_⟩
    refine bind_eq_ok.mpr ⟨_, mapError_eq_ok.mpr hprove, ?_⟩
    exact bind_eq_ok.mpr ⟨_, mapError_eq_ok.mpr hfacts, rfl⟩

/-- What goes wrong after the checks is an internal error. -/
theorem internal_of_runAndProve_error (p : VirtualSnosProver api b)
    (debugHash : b.TransactionHash → String) {blockId : BlockId} {tx : api.RpcInvokeTransactionV3}
    {e : VirtualSnosProverError b.TransactionHash} (h : p.runAndProve blockId tx = .error e) :
    ∃ msg, errorObject debugHash e = internalServerError msg := by
  rcases bind_eq_error.mp h with h | ⟨_, -, h⟩
  · obtain ⟨e', -, rfl⟩ := mapError_eq_error.mp h
    exact ⟨_, rfl⟩
  · rcases bind_eq_error.mp h with h | ⟨_, -, h⟩
    · obtain ⟨e', -, rfl⟩ := mapError_eq_error.mp h
      exact ⟨_, rfl⟩
    · rcases bind_eq_error.mp h with h | ⟨_, -, h⟩
      · obtain ⟨e', -, rfl⟩ := mapError_eq_error.mp h
        exact ⟨_, rfl⟩
      · cases h

/-- **Every request comes to an outcome.** -/
theorem proveTransaction_outcome (p : VirtualSnosProver api b)
    (debugHash : b.TransactionHash → String) (maxConcurrentRequests permits : ℕ)
    (blockId : BlockId) (transaction : RpcTransaction api.RpcInvokeTransactionV3) :
    Outcome p permits blockId transaction
      (proveTransaction p debugHash maxConcurrentRequests permits blockId transaction) := by
  rw [proveTransaction]
  by_cases hpermits : permits = 0
  · rw [if_pos hpermits]
    exact .busy hpermits
  rw [if_neg hpermits]
  by_cases hblock : blockId = .pending
  · subst hblock
    exact .pending hpermits rfl
  have hchecks : checkedInput ⟨p.config, blockId, transaction⟩
      = (extractRpcInvokeTx transaction >>= fun invokeV3 => do
          validateTransactionInput invokeV3 p.config.validateZeroFeeFields
          pure invokeV3) := by
    rw [checkedInput, failIf, if_neg hblock]
    rfl
  rw [VirtualSnosProver.proveTransaction, hchecks]
  cases transaction with
  | declare =>
      refine .unsupported hpermits hblock fun tx htx => ?_
      cases htx
  | deployAccount =>
      refine .unsupported hpermits hblock fun tx htx => ?_
      cases htx
  | invoke tx =>
      cases hvalid : validateTransactionInput tx p.config.validateZeroFeeFields with
      | error e =>
          have hinput : ¬ InputOk p tx := fun hinput => by
            rw [(validateTransactionInput_iff p).mpr hinput] at hvalid
            cases hvalid
          obtain ⟨msg, rfl⟩ := invalidInput_of_error hvalid
          simp only [extractRpcInvokeTx, bind, Except.bind, hvalid]
          exact .invalidInput hpermits hblock rfl hinput
      | ok u =>
          have hinput := (validateTransactionInput_iff p).mp hvalid
          simp only [extractRpcInvokeTx, bind, Except.bind, hvalid, pure, Except.pure,
            Except.mapError]
          cases hrun : p.runAndProve blockId tx with
          | ok r =>
              exact .proved hpermits hblock rfl hinput ((runAndProve_eq_ok p).mp hrun)
          | error e =>
              obtain ⟨msg, hmsg⟩ := internal_of_runAndProve_error p debugHash hrun
              simp only [hmsg]
              refine .internal hpermits hblock rfl hinput fun r hr => ?_
              rw [(runAndProve_eq_ok p).mpr hr] at hrun
              cases hrun

/-- A run is proved with one result. -/
theorem Proves.unique {p : VirtualSnosProver api b} {blockId : BlockId}
    {tx : api.RpcInvokeTransactionV3} {r r' : ProveTransactionResult p}
    (h : Proves p blockId tx r) (h' : Proves p blockId tx r') : r = r' :=
  Except.ok.inj (((runAndProve_eq_ok p).mpr h).symm.trans ((runAndProve_eq_ok p).mpr h'))

/-- An outcome is as the table has it. -/
theorem Outcome.table {p : VirtualSnosProver api b} {permits : ℕ} {blockId : BlockId}
    {transaction : RpcTransaction api.RpcInvokeTransactionV3}
    {response : Except ErrorObjectOwned (ProveTransactionResult p)}
    (h : Outcome p permits blockId transaction response) :
    ResponseTable p permits blockId transaction response := by
  cases h with
  | busy hpermits =>
      constructor <;> simp [errorCode, serviceBusy, listedErrors, hpermits]
  | pending hpermits hblock =>
      constructor <;> simp [errorCode, blockNotFound, listedErrors, hpermits, hblock]
  | unsupported hpermits hblock htx =>
      constructor <;> simp [errorCode, unsupportedTxVersion, listedErrors, hpermits, hblock, htx]
  | invalidInput hpermits hblock htx hinput =>
      constructor <;>
        simp [errorCode, invalidTransactionInput, listedErrors, hpermits, hblock, htx, hinput]
  | internal hpermits hblock htx hinput hfails =>
      constructor <;>
        simp [errorCode, internalServerError, listedErrors, hpermits, hblock, htx, hinput, hfails]
  | @proved r tx hpermits hblock htx hinput hproves =>
      have hone : ∀ r', r = r' ↔ Proves p blockId tx r' := fun r' =>
        ⟨fun h => h ▸ hproves, fun h => hproves.unique h⟩
      have hsome : ∃ r', Proves p blockId tx r' := ⟨r, hproves⟩
      constructor <;> simp [errorCode, hpermits, hblock, htx, hinput, hone, hsome]

/-- **The table of responses**, whatever the runner and the prover do. -/
theorem proveTransaction_table (p : VirtualSnosProver api b)
    (debugHash : b.TransactionHash → String) (maxConcurrentRequests permits : ℕ)
    (blockId : BlockId) (transaction : RpcTransaction api.RpcInvokeTransactionV3) :
    ResponseTable p permits blockId transaction
      (proveTransaction p debugHash maxConcurrentRequests permits blockId transaction) :=
  (proveTransaction_outcome p debugHash maxConcurrentRequests permits blockId transaction).table

end Snip36.Rpc
