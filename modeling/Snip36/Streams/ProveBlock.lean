import Snip36.CoinFlip.CommitReveal
import Snip36.Streams.Play

/-!
# Streams — the task of a block

The task that `prove_block` spawns: it constructs a transaction of increments, has it proved,
submits it to the node, waits for it and reads the counter.  Its first step multiplies the amount
and the number of the increments, which a checked build does not let overflow
(`proveBlockTask_endsProperly_iff`); without that step it always ends properly
(`proveBlockTaskFrom_endsProperly`).

`streams_endProperly_iff` is about both tasks.
-/

namespace Snip36.Streams
open Support Signing CoinFlip

/-! ### The request -/

/-- The fields of `Session` that the handler reads. -/
structure Session where
  contractAddress : Option String
  deployBlock : Option (BitVec 64)
  lastReferenceBlock : Option (BitVec 64)

/-- `ProveBlockQuery`. -/
structure ProveBlockQuery where
  incrementAmount : BitVec 64 := 1
  incrementsPerBlock : BitVec 32 := 1

/-- What the task captures. -/
structure ProveJob where
  sessionId : String
  contractAddress : String
  referenceBlock : BitVec 64
  incrementAmount : BitVec 64
  incrementsPerBlock : BitVec 32

/-- `prove_block`, up to the task that it spawns. -/
def proveBlock (session : Session) (sessionId : String) (params : ProveBlockQuery) :
    Except ErrorResponse ProveJob := do
  let contractAddress ← okOr session.contractAddress
    (⟨.badRequest, "No counter contract deployed"⟩ : ErrorResponse)
  let referenceBlock ← okOr (session.lastReferenceBlock <|> session.deployBlock)
    (⟨.badRequest, "Deploy block not tracked"⟩ : ErrorResponse)
  pure {
    sessionId
    contractAddress
    referenceBlock
    incrementAmount := params.incrementAmount
    incrementsPerBlock := params.incrementsPerBlock }

/-! ### The task -/

/-- `INCREMENT_SELECTOR`. -/
def incrementSelector : String := "0x7a44dde9fea32737a5cf3f9683b3235138654aa2d189f6fe44af37a61dc60d"

/-- `GET_COUNTER_SELECTOR`. -/
def getCounterSelector : String :=
  "0x3370263ab53343580e77063a719a5865004caff7f367ec136a6cdd34b6786ca"

/-- `calldata_strs`: a call for each increment. -/
def ProveJob.calldataStrs (job : ProveJob) : List String :=
  hexOf job.incrementsPerBlock.toNat ::
    (List.replicate job.incrementsPerBlock.toNat
      [job.contractAddress, incrementSelector, "0x1", hexOf job.incrementAmount.toNat]).flatten

/-- `a * b`, in a build that checks for overflow. -/
def checkedMul (a b : BitVec 64) : Task (BitVec 64) :=
  .orPanic (if a.toNat * b.toNat < 2 ^ 64 then some (a * b) else none)
    "attempt to multiply with overflow"

section Tasks

variable (fh : FeltHex) (sc : StarknetCrypto) (serde : SerdeJson) (o : Outcomes)

/-- The attempts to submit to the node, from `attempt` on, with `left` to go. -/
def submitViaRpc (invokeTx : Json) : ℕ → ℕ → Task (Option String)
  | 0, _ => pure none
  | left + 1, attempt =>
      match o.addInvokeTransaction attempt invokeTx with
      | .ok acceptedTxHash => do
          send "log" ("RPC accepted (attempt " ++ toString attempt ++ "/20): " ++ acceptedTxHash)
          pure (some acceptedTxHash)
      | .error (.jsonRpc msg) =>
          if attempt < 20 then do
            send "log" ("RPC error (attempt " ++ toString attempt ++ "/20), waiting 10s... ("
              ++ msg ++ ")")
            submitViaRpc invokeTx left (attempt + 1)
          else .fail (.send "error"
            ("RPC submission failed: " ++ (RpcError.jsonRpc msg).toString))
      | .error e => .fail (.send "error" ("RPC submission failed: " ++ e.toString))

/-- A log about a messages file, when there is one. -/
def logMessages (messagesFile : String) : Task Unit :=
  if o.fileExists messagesFile then send "log" ("L2→L1 messages saved: " ++ messagesFile)
  else pure ()

/-- `counter_value`. -/
def counterValue (contractAddress : String) : BitVec 64 :=
  match o.starknetCall contractAddress getCounterSelector [] with
  | .ok result => (result.head?.bind u64FromHex).getD 0
  | .error _ => 0

/-- The task of `prove_block`, from its first log on. -/
def proveBlockTaskFrom (job : ProveJob) (expectedIncrement : BitVec 64) : Task Unit := do
  send "log" ("Starting SNIP-36 cycle: " ++ toString job.incrementsPerBlock.toNat
    ++ " calls x increment(" ++ toString job.incrementAmount.toNat ++ ") = +"
    ++ toString expectedIncrement.toNat ++ " per block")
  -- Phase 1: construct the transaction.
  send "phase" "constructing"
  let calldataFelts ← orError (job.calldataStrs.mapM (feltFromHex fh))
    fun e => "Failed to parse calldata: " ++ e
  let senderFelt ← orError (feltFromHex fh o.config.accountAddress)
    fun e => "Invalid account address: " ++ e
  let privateKeyFelt ← orError (feltFromHex fh o.config.privateKey)
    fun e => "Invalid private key: " ++ e
  let chainId ← orError o.config.chainIdFelt fun e => "Invalid chain_id: " ++ e
  let nonce ← orError (o.getNonceAtBlock o.config.accountAddress job.referenceBlock) fun e =>
    "Failed to get nonce at block " ++ toString job.referenceBlock.toNat ++ ": " ++ e.toString
  let nonceFelt := Felt.ofNat nonce.toNat
  let txHash := standardTxHash sc senderFelt calldataFelts chainId nonceFelt .default
  let sig ← orError (sign sc privateKeyFelt txHash) fun e => "Signing failed: " ++ e.toString
  let txJson := txJson o job.calldataStrs nonce .default sig
  let outputDir := o.join o.config.outputDir "playground"
  orError (o.createDirAll outputDir) fun e => "Failed to create output dir: " ++ e
  let txPath := o.join outputDir (job.sessionId ++ "_tx.json")
  orError (o.write txPath (serde.toStringPretty txJson)) fun e => "Failed to write tx JSON: " ++ e
  send "log" ("Transaction constructed (nonce: " ++ toString nonce.toNat ++ ", ref block: "
    ++ toString job.referenceBlock.toNat ++ ")")
  -- Phase 2: prove it.
  send "phase" "proving"
  send "log" ("Proving against block " ++ toString job.referenceBlock.toNat ++ "...")
  let proofPath := o.join outputDir (job.sessionId ++ ".proof")
  let child ← orError (o.spawn o.snip36Bin (proveArgs o job.referenceBlock txPath proofPath))
    fun e => "Failed to spawn prover (" ++ o.snip36Bin ++ "): " ++ e
  errorIf (child.toOption ≠ some true ∨ o.fileExists proofPath = false) "Proof generation failed"
  let proofSize := (o.metadataLen proofPath).toOption.getD 0
  send "log" ("Proof generated (" ++ toString proofSize.toNat ++ " bytes)")
  logMessages o (o.withExtension proofPath "raw_messages.json")
  -- Phase 3: submit it.
  send "phase" "submitting"
  let (proofBase64, proofFacts) ← readProof fh serde o proofPath
  let built ← orError (Core.signAndBuildPayload sc {
      senderAddress := senderFelt
      privateKey := privateKeyFelt
      calldata := calldataFelts
      proofBase64
      proofFacts
      nonce := nonceFelt
      chainId
      resourceBounds := .default })
    fun e => "SNIP-36 signing failed: " ++ e.toString
  let localTxHashHex := fmtFelt built.1
  send "log" ("Submitting tx " ++ (getTo localTxHashHex 18).getD localTxHashHex ++ " via RPC...")
  let submitted ← submitViaRpc o built.2 20 1
  let rpcTxHash ← orError (okOr submitted ()) fun _ => "RPC did not accept after all retries"
  -- Phase 4: wait for it, and read the counter.
  send "phase" "verifying"
  send "log" "Waiting for tx inclusion..."
  let receipt ← orError (o.waitForTx rpcTxHash 180 5) fun e => "Tx not confirmed: " ++ e.toString
  let bn := (receiptBlockNumber receipt).getD 0
  send "log" ("Tx included in block " ++ toString bn.toNat)
  Emission.emit (.setReferenceBlock job.sessionId bn)
  let counterValue := counterValue o job.contractAddress
  send "log" ("Counter value: " ++ toString counterValue.toNat)
  send "complete" (serde.toString (.obj [
    ("tx_hash", .str rpcTxHash),
    ("counter_value", .num counterValue.toNat),
    ("proof_size", .num proofSize.toNat),
    ("increment", .num expectedIncrement.toNat)]))

/-- The task of `prove_block`, in a build that checks for overflow. -/
def proveBlockTask (job : ProveJob) : Task Unit := do
  let expectedIncrement ← checkedMul job.incrementAmount (job.incrementsPerBlock.setWidth 64)
  proveBlockTaskFrom fh sc serde o job expectedIncrement

end Tasks

variable {fh : FeltHex} {sc : StarknetCrypto} {serde : SerdeJson} {o : Outcomes}

/-! ### How the task ends -/

/-- The attempts end with a hash, with none, or with an error. -/
theorem passes_submitViaRpc (invokeTx : Json) (left attempt : ℕ) :
    Passes [] (submitViaRpc o invokeTx left attempt) := by
  induction left generalizing attempt with
  | zero => exact Emission.Passes.pure none
  | succ left ih =>
      rw [submitViaRpc]
      split
      · exact (passes_log _).bind fun _ => Emission.Passes.pure _
      · split
        · exact (passes_log _).bind fun _ => ih (attempt + 1)
        · exact passes_fail _
      · exact passes_fail _

theorem passes_logMessages (messagesFile : String) : Passes [] (logMessages o messagesFile) := by
  rw [logMessages]
  split
  · exact passes_log _
  · exact Emission.Passes.pure ()

/-- **From its first log on, the task ends properly.** -/
theorem proveBlockTaskFrom_endsProperly (job : ProveJob) (expectedIncrement : BitVec 64) :
    EndsProperly (proveBlockTaskFrom fh sc serde o job expectedIncrement) := by
  refine .next (passes_log _) fun _ => ?_
  refine .nextPhase passes_constructing fun _ => ?_
  refine .next (passes_orError _ _) fun calldataFelts => ?_
  refine .next (passes_orError _ _) fun senderFelt => ?_
  refine .next (passes_orError _ _) fun privateKeyFelt => ?_
  refine .next (passes_orError _ _) fun chainId => ?_
  refine .next (passes_orError _ _) fun nonce => ?_
  refine .next (passes_orError _ _) fun sig => ?_
  refine .next (passes_orError _ _) fun _ => ?_
  refine .next (passes_orError _ _) fun _ => ?_
  refine .next (passes_log _) fun _ => ?_
  refine .nextPhase passes_proving fun _ => ?_
  refine .next (passes_log _) fun _ => ?_
  refine .next (passes_orError _ _) fun child => ?_
  refine .next (passes_errorIf _ _) fun _ => ?_
  refine .next (passes_log _) fun _ => ?_
  refine .next (passes_logMessages _) fun _ => ?_
  refine .nextPhase passes_submitting fun _ => ?_
  refine .next (passes_readProof _) fun ⟨proofBase64, proofFacts⟩ => ?_
  refine .next (passes_orError _ _) fun built => ?_
  refine .next (passes_log _) fun _ => ?_
  refine .next (passes_submitViaRpc _ _ _) fun submitted => ?_
  refine .next (passes_orError _ _) fun rpcTxHash => ?_
  refine .nextPhase passes_verifying fun _ => ?_
  refine .next (passes_log _) fun _ => ?_
  refine .next (passes_orError _ _) fun receipt => ?_
  refine .next (passes_log _) fun _ => ?_
  refine .next (passes_setReferenceBlock _ _) fun _ => ?_
  refine .next (passes_log _) fun _ => ?_
  exact .emit (.inr (.inr rfl)) rfl

/-- The increments of a block add up to an unsigned integer of 64 bits. -/
def ProveJob.Fits (job : ProveJob) : Prop :=
  job.incrementAmount.toNat * job.incrementsPerBlock.toNat < 2 ^ 64

instance (job : ProveJob) : Decidable job.Fits := inferInstanceAs (Decidable (_ < _))

theorem ProveJob.fits_iff (job : ProveJob) :
    job.Fits ↔
      job.incrementAmount.toNat * (job.incrementsPerBlock.setWidth 64).toNat < 2 ^ 64 := by
  rw [Fits, BitVec.toNat_setWidth, Nat.mod_eq_of_lt (by omega)]

theorem passes_checkedMul {a b : BitVec 64} (h : a.toNat * b.toNat < 2 ^ 64) :
    Passes [] (checkedMul a b) := by
  rw [checkedMul, if_pos h]
  exact Emission.Passes.orPanic rfl

/-- **When the increments fit, the task ends properly.** -/
theorem proveBlockTask_endsProperly {job : ProveJob} (h : job.Fits) :
    EndsProperly (proveBlockTask fh sc serde o job) :=
  .next (passes_checkedMul (job.fits_iff.mp h)) (proveBlockTaskFrom_endsProperly job)

/-- **The task ends properly exactly when the increments fit.** -/
theorem proveBlockTask_endsProperly_iff {job : ProveJob} :
    EndsProperly (proveBlockTask fh sc serde o job) ↔ job.Fits := by
  refine ⟨fun h => ?_, proveBlockTask_endsProperly⟩
  by_contra hfits
  refine Emission.not_finishes_of_panicked "attempt to multiply with overflow" ?_ h
  rw [proveBlockTask, checkedMul, if_neg (mt job.fits_iff.mpr hfits)]
  rfl

/-! ### Both streams -/

/-- **A stream ends properly exactly when its first step does not panic**: the cut of the player's
text is at a char boundary, and the increments fit. -/
theorem streams_endProperly_iff (fh : FeltHex) (sc : StarknetCrypto) (serde : SerdeJson)
    (o : Outcomes) :
    (∀ game, EndsProperly (playTask fh sc serde o game) ↔ CutsPlayer game.player) ∧
      ∀ job, EndsProperly (proveBlockTask fh sc serde o job) ↔ job.Fits :=
  ⟨fun _ => playTask_endsProperly_iff, fun _ => proveBlockTask_endsProperly_iff⟩

/-- An accepted game and an accepted job whose streams panic, whatever the outcomes are. -/
theorem streams_not_endProperly :
    (∃ c game, reveal sampleHex samplePedersen "session" ⟨"0x5", "0x6", 3⟩ c
        ⟨"0x000000000000000é", 1, "0x7"⟩ = .ok game ∧
      ∀ sc serde o, ¬ EndsProperly (playTask sampleHex sc serde o game)) ∧
    ∃ job, proveBlock ⟨some "0x5", some 3, none⟩ "session" ⟨0xffffffffffffffff, 2⟩ = .ok job ∧
      ∀ sc serde o, ¬ EndsProperly (proveBlockTask sampleHex sc serde o job) := by
  refine ⟨⟨⟨commitmentText samplePedersen 1 7, 9, "0x000000000000000é"⟩,
    ⟨"session", ⟨"0x5", "0x6", 3⟩, "0x000000000000000é", 1, 9⟩, ?_, ?_⟩, _, rfl, ?_⟩
  · rw [reveal_eq_ok]
    exact ⟨rfl, ⟨7, sampleHex.fromHex_fmtFelt 7, rfl⟩, rfl⟩
  · intro sc serde o h
    have hcut : ¬ CutsPlayer "0x000000000000000é" := by
      rw [CutsPlayer]
      decide +kernel
    exact hcut (playTask_endsProperly_iff.mp h)
  · intro sc serde o h
    exact absurd (proveBlockTask_endsProperly_iff.mp h) (by rw [ProveJob.Fits]; decide)

end Snip36.Streams
