import Snip36.CoinFlip.Server
import Snip36.Streams.Outcomes

/-!
# Streams — the task of a game

The task that `play_coinflip` spawns: it constructs the transaction of a game, has it proved,
submits it to the gateway and waits for it.  Its first step slices the player's text at byte 18,
and panics when no char starts there (`playTask_endsProperly_iff`).
-/

namespace Snip36.Streams
open Support Signing CoinFlip

section Tasks

variable (fh : FeltHex) (sc : StarknetCrypto) (serde : SerdeJson) (o : Outcomes)

/-- The bet in words. -/
def betLabel (bet : BitVec 8) : String := if bet = 0 then "heads" else "tails"

/-- The outcome and `won` in a messages file, when it has a message of five texts. -/
def settlementOf (messagesFile : String) : Option (String × Bool) := do
  guard (o.fileExists messagesFile)
  let msgStr ← (o.readToString messagesFile).toOption
  let msgJson ← (serde.fromStr msgStr).toOption
  let msgs ← (msgJson.field "l2_to_l1_messages").bind Json.elems
  let first ← msgs.head?
  let payload ← (first.field "payload").bind Json.elems
  let fields := payload.filterMap Json.text
  let outcome ← fields[3]?
  let won ← fields[4]?
  pure (if outcome = "0x0" then "heads" else "tails", won = "0x1")

/-- A log about the outcome and `won`. -/
def logSettlement : Option (String × Bool) → Task Unit
  | some (outcome, won) => send "log" ("Settlement: outcome=" ++ outcome ++ " won=" ++ toString won)
  | none => pure ()

/-- The attempts to submit to the gateway, from `attempt` on, with `left` to go. -/
def submitToGateway (submitUrl : String) (payload : Json) : ℕ → ℕ → Task Bool
  | 0, _ => pure false
  | left + 1, attempt => do
      let response ← orError (o.post attempt submitUrl payload) fun e => "Request failed: " ++ e
      let body ← orError response fun e => "Failed to read response: " ++ e
      let code := ((body.field "code").bind Json.text).getD ""
      let msg := ((body.field "message").bind Json.text).getD ""
      if code = "TRANSACTION_RECEIVED" then do
        send "log" ("Accepted (attempt " ++ toString attempt ++ "/20)")
        pure true
      else if (contains msg "too recent" ∨ contains msg "stored block hash: 0")
          ∧ attempt < 20 then do
        send "log" ("Not ready (attempt " ++ toString attempt ++ "/20), waiting 10s...")
        submitToGateway submitUrl payload left (attempt + 1)
      else .fail (.send "error" ("Rejected: " ++ serde.toString body))

/-- The task of `play_coinflip`. -/
def playTask (game : Game) : Task Unit := do
  let shown ← sliceTo game.player (min game.player.utf8ByteSize 18)
  send "log" ("CoinFlip: player=" ++ shown ++ " bet=" ++ toString game.bet.toNat ++ " ("
    ++ betLabel game.bet ++ ")")
  -- Phase 1: construct the transaction.
  send "phase" "constructing"
  let calldataFelts ← orError (game.calldataFelts fh) fun e => "Failed to parse calldata: " ++ e
  let senderFelt ← orError (feltFromHex fh o.config.accountAddress)
    fun e => "Invalid sender address: " ++ e
  let privateKeyFelt ← orError (feltFromHex fh o.config.privateKey)
    fun e => "Invalid private key: " ++ e
  let chainId ← orError o.config.chainIdFelt fun e => "Invalid chain_id: " ++ e
  let nonce ← orError (o.getNonceAtBlock o.config.accountAddress game.seedBlock)
    fun e => "Failed to get nonce: " ++ e.toString
  let nonceFelt := Felt.ofNat nonce.toNat
  let txHash := standardTxHash sc senderFelt calldataFelts chainId nonceFelt .zeroFee
  let sig ← orError (sign sc privateKeyFelt txHash) fun e => "Signing failed: " ++ e.toString
  let txJson := txJson o game.calldataStrs nonce .zeroFee sig
  -- The result of `create_dir_all` is ignored.
  let outputDir := o.join o.config.outputDir "coinflip"
  let txPath := o.join outputDir (game.sessionId ++ "_tx.json")
  orError (o.write txPath (serde.toStringPretty txJson)) fun e => "Failed to write tx JSON: " ++ e
  send "log" ("Transaction constructed (nonce: " ++ toString nonce.toNat ++ ", seed: "
    ++ hexOf game.seedBlock.toNat ++ ")")
  -- Phase 2: prove it.
  send "phase" "proving"
  send "log" ("Proving against block " ++ toString game.seedBlock.toNat ++ "...")
  let proofPath := o.join outputDir (game.sessionId ++ ".proof")
  let child ← orError (o.spawn o.snip36Bin (proveArgs o game.seedBlock txPath proofPath))
    fun e => "Failed to spawn prover (" ++ o.snip36Bin ++ "): " ++ e
  errorIf (child.toOption ≠ some true) "Proof generation failed"
  let proofSize := (o.metadataLen proofPath).toOption.getD 0
  send "log" ("Proof generated (" ++ toString proofSize.toNat ++ " bytes)")
  let settlement := settlementOf serde o (o.withExtension proofPath "raw_messages.json")
  logSettlement settlement
  let outcome := settlement.getD ("", false)
  -- Phase 3: submit it.
  send "phase" "submitting"
  let (proofBase64, proofFacts) ← readProof fh serde o proofPath
  let built ← orError (Core.signAndBuildPayload sc {
      senderAddress := senderFelt
      privateKey := privateKeyFelt
      calldata := calldataFelts
      proofBase64
      proofFacts
      nonce := nonceFelt
      chainId
      resourceBounds := .default })
    fun e => "SNIP-36 signing failed: " ++ e.toString
  let gwTxHashHex := fmtFelt built.1
  let gatewayUrl ← orError (okOr o.config.gatewayUrl ())
    fun _ => "STARKNET_GATEWAY_URL is required for coinflip submission"
  let submitUrl := trimEndMatches (· = '/') gatewayUrl ++ "/gateway/add_transaction"
  send "log" ("Submitting tx " ++ (getTo gwTxHashHex 18).getD gwTxHashHex ++ "...")
  let accepted ← submitToGateway serde o submitUrl built.2 20 1
  errorIf (accepted = false) "Not accepted after all retries"
  -- Phase 4: wait for it.
  send "phase" "verifying"
  send "log" "Waiting for tx inclusion..."
  let receipt ← orError (o.waitForTx gwTxHashHex 180 5)
    fun e => "Tx not confirmed: " ++ e.toString
  let bn := (receiptBlockNumber receipt).getD 0
  send "log" ("Tx included in block " ++ toString bn.toNat)
  send "result" (serde.toString (.obj [
    ("outcome", .str outcome.1),
    ("bet", .str (betLabel game.bet)),
    ("won", .bool outcome.2),
    ("tx_hash", .str gwTxHashHex),
    ("proof_size", .num proofSize.toNat),
    ("seed", .str (hexOf game.seedBlock.toNat)),
    ("player", .str game.player)]))

end Tasks

variable {fh : FeltHex} {sc : StarknetCrypto} {serde : SerdeJson} {o : Outcomes}

/-! ### How the task ends -/

/-- The attempts end with a verdict, or with an error. -/
theorem passes_submitToGateway (submitUrl : String) (payload : Json) (left attempt : ℕ) :
    Passes [] (submitToGateway serde o submitUrl payload left attempt) := by
  induction left generalizing attempt with
  | zero => exact Emission.Passes.pure false
  | succ left ih =>
      refine (passes_orError _ _).bind fun response => ?_
      refine (passes_orError _ _).bind fun body => ?_
      dsimp only
      split
      · exact (passes_log _).bind fun _ => Emission.Passes.pure true
      · split
        · exact (passes_log _).bind fun _ => ih (attempt + 1)
        · exact passes_fail _

theorem passes_readProof (proofPath : String) : Passes [] (readProof fh serde o proofPath) := by
  refine (passes_orError _ _).bind fun proofB64 => ?_
  refine (passes_orError _ _).bind fun proofFactsStr => ?_
  refine (passes_orError _ _).bind fun proofFactsHex => ?_
  exact (passes_orError _ _).bind fun proofFacts => Emission.Passes.pure _

theorem passes_logSettlement (settlement : Option (String × Bool)) :
    Passes [] (logSettlement settlement) := by
  cases settlement with
  | none => exact Emission.Passes.pure ()
  | some _ => exact passes_log _

/-- The text of the player is cut at a char boundary. -/
def CutsPlayer (player : String) : Prop :=
  (⟨min player.utf8ByteSize 18⟩ : String.Pos.Raw).IsValid player

/-- **When the cut is at a char boundary, the task ends properly.** -/
theorem playTask_endsProperly {game : Game} (h : CutsPlayer game.player) :
    EndsProperly (playTask fh sc serde o game) := by
  refine .next (Emission.Passes.orPanic (getTo_isSome_iff.mpr h)) fun shown => ?_
  refine .next (passes_log _) fun _ => ?_
  refine .nextPhase passes_constructing fun _ => ?_
  refine .next (passes_orError _ _) fun calldataFelts => ?_
  refine .next (passes_orError _ _) fun senderFelt => ?_
  refine .next (passes_orError _ _) fun privateKeyFelt => ?_
  refine .next (passes_orError _ _) fun chainId => ?_
  refine .next (passes_orError _ _) fun nonce => ?_
  refine .next (passes_orError _ _) fun sig => ?_
  refine .next (passes_orError _ _) fun _ => ?_
  refine .next (passes_log _) fun _ => ?_
  refine .nextPhase passes_proving fun _ => ?_
  refine .next (passes_log _) fun _ => ?_
  refine .next (passes_orError _ _) fun child => ?_
  refine .next (passes_errorIf _ _) fun _ => ?_
  refine .next (passes_log _) fun _ => ?_
  refine .next (passes_logSettlement _) fun _ => ?_
  refine .nextPhase passes_submitting fun _ => ?_
  refine .next (passes_readProof _) fun ⟨proofBase64, proofFacts⟩ => ?_
  refine .next (passes_orError _ _) fun built => ?_
  refine .next (passes_orError _ _) fun gatewayUrl => ?_
  refine .next (passes_log _) fun _ => ?_
  refine .next (passes_submitToGateway _ _ _ _) fun accepted => ?_
  refine .next (passes_errorIf _ _) fun _ => ?_
  refine .nextPhase passes_verifying fun _ => ?_
  refine .next (passes_log _) fun _ => ?_
  refine .next (passes_orError _ _) fun receipt => ?_
  refine .next (passes_log _) fun _ => ?_
  exact .emit (.inr (.inl rfl)) rfl

/-- **The task ends properly exactly when the cut is at a char boundary.** -/
theorem playTask_endsProperly_iff {game : Game} :
    EndsProperly (playTask fh sc serde o game) ↔ CutsPlayer game.player := by
  refine ⟨fun h => ?_, playTask_endsProperly⟩
  by_contra hcut
  have hnone : getTo game.player (min game.player.utf8ByteSize 18) = none := if_neg hcut
  refine Emission.not_finishes_of_panicked "byte index is not a char boundary" ?_ h
  rw [playTask, sliceTo, hnone]
  rfl

end Snip36.Streams
