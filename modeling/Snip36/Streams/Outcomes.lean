import Snip36.Signing.Payload
import Snip36.Support.Emission

/-!
# Streams — events and outcomes

`play_coinflip` and `prove_block` spawn tasks that send server-sent events.  This module has what
the two share: the events (`send`), what the outside answers (`Outcomes`), and the helpers that
read texts and receipts.

The outside is a record of functions, one for each call of the node, the file system or a
process, each with any outcome.
-/

namespace Snip36.Streams
open Support Signing

/-! ### Events -/

/-- What a task does on its own: it sends an event, or sets the reference block of a session. -/
inductive Action where
  | send (event data : String)
  | setReferenceBlock (sessionId : String) (block : BitVec 64)
  deriving DecidableEq

/-- The phases of a task. -/
inductive Phase where
  | constructing
  | proving
  | submitting
  | verifying
  deriving DecidableEq

/-- The phase that an event opens. -/
def Action.phase : Action → Option Phase
  | .send event data =>
      if event = "phase" then
        if data = "constructing" then some .constructing
        else if data = "proving" then some .proving
        else if data = "submitting" then some .submitting
        else if data = "verifying" then some .verifying
        else none
      else none
  | .setReferenceBlock .. => none

/-- The events that end a stream. -/
def Action.Terminal : Action → Prop
  | .send event _ => event = "error" ∨ event = "result" ∨ event = "complete"
  | .setReferenceBlock .. => False

/-- The name of an event. -/
def Action.event : Action → Option String
  | .send event _ => some event
  | .setReferenceBlock .. => none

/-- A task. -/
abbrev Task := Emission Action

/-- `send(event, data)`. -/
def send (event data : String) : Task Unit := .emit (.send event data)

/-- `match result { Ok(a) => a, Err(e) => { send("error", ..); return; } }`. -/
def orError {κ α : Type} (result : Except κ α) (message : κ → String) : Task α :=
  .orFail result fun e => .send "error" (message e)

/-- `{ send("error", message); return; }`, when `p`. -/
def errorIf (p : Prop) [Decidable p] (message : String) : Task Unit :=
  if p then .fail (.send "error" message) else pure ()

/-! ### Texts -/

/-- `s.get(..k)`. -/
def getTo (s : String) (k : ℕ) : Option String :=
  if (⟨k⟩ : String.Pos.Raw).IsValid s then some (String.Pos.Raw.extract s 0 ⟨k⟩) else none

/-- `&s[..k]`. -/
def sliceTo (s : String) (k : ℕ) : Task String :=
  .orPanic (getTo s k) "byte index is not a char boundary"

/-- The characters that `trim` removes. -/
def isWhitespace (c : Char) : Bool :=
  let n := c.toNat
  (9 ≤ n && n ≤ 13) || n = 0x20 || n = 0x85 || n = 0xA0 || n = 0x1680 ||
    (0x2000 ≤ n && n ≤ 0x200A) || n = 0x2028 || n = 0x2029 || n = 0x202F || n = 0x205F || n = 0x3000

/-- The text without the last characters that satisfy `p`. -/
def trimEndMatches (p : Char → Bool) (s : String) : String :=
  String.ofList (s.toList.reverse.dropWhile p).reverse

/-- `s.trim()`. -/
def trim (s : String) : String :=
  trimEndMatches isWhitespace (String.ofList (s.toList.dropWhile isWhitespace))

/-- `s.contains(pat)`. -/
def contains (s pat : String) : Bool := s.toList.tails.any pat.toList.isPrefixOf

/-- `trim_start_matches("0x")`, of the characters of a text. -/
def trimStart0x : List Char → List Char
  | '0' :: 'x' :: cs => trimStart0x cs
  | cs => cs

/-- `u64::from_str_radix(s.trim_start_matches("0x"), 16)`. -/
def u64FromHex (s : String) : Option (BitVec 64) :=
  let digits :=
    match trimStart0x s.toList with
    | '+' :: cs => cs
    | cs => cs
  if digits = [] then none
  else (hexDigits? digits).bind fun n => if n < 2 ^ 64 then some (BitVec.ofNat 64 n) else none

/-! ### The outside -/

/-- `RpcError`. -/
inductive RpcError where
  | http (msg : String)
  | jsonRpc (msg : String)
  | unexpected (msg : String)
  | txTimeout (txHash : String) (timeout : BitVec 64)
  | txRejected (msg : String)
  | blockTimeout (blockNumber timeout : BitVec 64)

/-- `RpcError::to_string`. -/
def RpcError.toString : RpcError → String
  | .http msg => "HTTP request failed: " ++ msg
  | .jsonRpc msg => "JSON-RPC error: " ++ msg
  | .unexpected msg => "unexpected response: " ++ msg
  | .txTimeout txHash timeout =>
      "transaction " ++ txHash ++ " not confirmed within " ++ ToString.toString timeout.toNat ++ "s"
  | .txRejected msg => "transaction rejected: " ++ msg
  | .blockTimeout blockNumber timeout =>
      "no new block after " ++ ToString.toString blockNumber.toNat ++ " within "
        ++ ToString.toString timeout.toNat ++ "s"

/-- The fields of `Config` that the tasks read. -/
structure Config where
  rpcUrl : String
  accountAddress : String
  privateKey : String
  chainId : String
  gatewayUrl : Option String
  outputDir : String

/-- `chain_id_felt`, of a config: the bytes, to the right of a buffer of 32. -/
def Config.chainIdFelt (config : Config) : Except String Felt :=
  let bytes := utf8Bytes config.chainId
  if 31 < bytes.length then
    .error ("invalid chain_id: chain_id '" ++ config.chainId ++ "' is "
      ++ toString bytes.length ++ " bytes, max is 31")
  else
    let buf := List.replicate (32 - bytes.length) 0 ++ bytes
    .ok (.fromBytesBe buf)

/-- The functions of `serde_json`. -/
structure SerdeJson where
  toString : Json → String
  toStringPretty : Json → String
  fromStr : String → Except String Json
  /-- `from_str`, to a `Vec<String>`. -/
  stringsFromStr : String → Except String (List String)

/-- What the node, the file system and the processes answer. -/
structure Outcomes where
  config : Config
  /-- `PROVER_URL`, when it is set. -/
  proverUrl : Option String
  /-- `find_snip36_bin`. -/
  snip36Bin : String
  /-- `Path::join`. -/
  join : String → String → String
  /-- `Path::with_extension`. -/
  withExtension : String → String → String
  createDirAll : String → Except String Unit
  write : String → String → Except String Unit
  readToString : String → Except String String
  fileExists : String → Bool
  /-- The length in `metadata`. -/
  metadataLen : String → Except String (BitVec 64)
  /-- `Command::spawn` of a program with its arguments: whether it exits with success, when it is
  waited for. -/
  spawn : String → List String → Except String (Except String Bool)
  getNonceAtBlock : String → BitVec 64 → Except RpcError (BitVec 64)
  /-- The attempts of a `POST` of a body: whether it is sent, and its response as JSON. -/
  post : ℕ → String → Json → Except String (Except String Json)
  /-- The attempts of `add_invoke_transaction`. -/
  addInvokeTransaction : ℕ → Json → Except RpcError String
  waitForTx : String → BitVec 64 → BitVec 64 → Except RpcError Json
  starknetCall : String → String → List String → Except RpcError (List String)

/-- `parse_proof_facts_json`. -/
def parseProofFactsJson (serde : SerdeJson) (jsonStr : String) : Except String (List String) :=
  (serde.stringsFromStr jsonStr).mapError fun e => "invalid JSON: " ++ e

/-- `as_u64`, of a JSON value. -/
def asU64 : Json → Option (BitVec 64)
  | .num n => if 0 ≤ n ∧ n < 2 ^ 64 then some (BitVec.ofInt 64 n) else none
  | _ => none

/-- `receipt_block_number`. -/
def receiptBlockNumber (receipt : Json) : Option (BitVec 64) := do
  let bn ← receipt.field "block_number"
  match asU64 bn with
  | some n => some n
  | none =>
      match bn.text with
      | some s => u64FromHex s
      | none => none

/-! ### Steps that both tasks take -/

section Steps

variable (fh : FeltHex) (sc : StarknetCrypto) (serde : SerdeJson) (o : Outcomes)

/-- `STRK_TOKEN`. -/
def strkToken : String := "0x04718f5a0fc34cc1af16a1cdee98ffb20c31f5cd61d6ab07201858f4287c938d"

/-- `prove_args`. -/
def proveArgs (block : BitVec 64) (txPath proofPath : String) : List String :=
  ["prove", "virtual-os", "--block-number", toString block.toNat, "--tx-json", txPath, "--rpc-url",
    o.config.rpcUrl, "--output", proofPath, "--strk-fee-token", strkToken]
    ++ match o.proverUrl with
      | some url => if url ≠ "" then ["--prover-url", url] else []
      | none => []

/-- `tx_json`. -/
def txJson (calldataStrs : List String) (nonce : BitVec 64) (bounds : ResourceBounds)
    (sig : Signature) : Json :=
  .obj [
    ("type", .str "INVOKE"),
    ("version", .str "0x3"),
    ("sender_address", .str o.config.accountAddress),
    ("calldata", strings calldataStrs),
    ("nonce", .str (hexOf nonce.toNat)),
    ("resource_bounds", bounds.toRpcJson),
    ("tip", .str "0x0"),
    ("paymaster_data", .arr []),
    ("account_deployment_data", .arr []),
    ("nonce_data_availability_mode", .str "L1"),
    ("fee_data_availability_mode", .str "L1"),
    ("signature", strings [fmtFelt sig.r, fmtFelt sig.s])]

/-- `compute_invoke_v3_tx_hash` of a transaction to be proved: no tip, no proof facts. -/
def standardTxHash (sender : Felt) (calldata : List Felt) (chainId nonce : Felt)
    (bounds : ResourceBounds) : Felt :=
  Core.computeInvokeV3TxHash sc.poseidonHashMany {
    senderAddress := sender
    calldata
    chainId
    nonce
    tip := 0
    resourceBounds := bounds
    paymasterData := []
    accountDeploymentData := []
    nonceDaMode := 0
    feeDaMode := 0
    proofFacts := [] }

/-- The proof in a file, and the proof facts beside it. -/
def readProof (proofPath : String) : Task (String × List Felt) := do
  let proofB64 ← orError (o.readToString proofPath) fun e => "Failed to read proof: " ++ e
  let proofFactsFile := o.withExtension proofPath "proof_facts"
  let proofFactsStr ← orError (o.readToString proofFactsFile)
    fun e => "Failed to read proof_facts: " ++ e
  let proofFactsHex ← orError (parseProofFactsJson serde proofFactsStr)
    fun e => "Invalid proof_facts: " ++ e
  let proofFacts ← orError (proofFactsHex.mapM (feltFromHex fh))
    fun e => "Failed to parse proof_facts: " ++ e
  pure (trim proofB64, proofFacts)

end Steps

/-! ### Rules for the actions -/

/-- A task that does not panic, opens the phases in their order, and ends with one terminal event,
its last. -/
abbrev EndsProperly (task : Task Unit) : Prop :=
  Emission.Finishes Action.phase Action.Terminal
    [.constructing, .proving, .submitting, .verifying] task

/-- A task goes through some phases. -/
abbrev Passes {α : Type} (ps : List Phase) (task : Task α) : Prop :=
  Emission.Passes Action.phase Action.Terminal ps task

theorem passes_log (data : String) : Passes [] (send "log" data) :=
  Emission.Passes.emit (by simp [Action.Terminal]) (by simp [Action.phase])

theorem passes_setReferenceBlock (sessionId : String) (block : BitVec 64) :
    Passes [] (Emission.emit (.setReferenceBlock sessionId block)) :=
  Emission.Passes.emit id rfl

theorem passes_constructing : Passes [.constructing] (send "phase" "constructing") :=
  Emission.Passes.opens (by simp [Action.Terminal]) rfl

theorem passes_proving : Passes [.proving] (send "phase" "proving") :=
  Emission.Passes.opens (by simp [Action.Terminal]) rfl

theorem passes_submitting : Passes [.submitting] (send "phase" "submitting") :=
  Emission.Passes.opens (by simp [Action.Terminal]) rfl

theorem passes_verifying : Passes [.verifying] (send "phase" "verifying") :=
  Emission.Passes.opens (by simp [Action.Terminal]) rfl

theorem passes_orError {κ α : Type} (result : Except κ α) (message : κ → String) :
    Passes [] (orError result message) :=
  Emission.Passes.orFail (fun _ => .inl rfl) fun _ => rfl

theorem passes_fail {α : Type} (message : String) :
    Passes [] (Emission.fail (.send "error" message) : Task α) :=
  Emission.Passes.fail (.inl rfl) rfl

theorem passes_errorIf (p : Prop) [Decidable p] (message : String) :
    Passes [] (errorIf p message) := by
  rw [errorIf]
  split
  · exact passes_fail message
  · exact Emission.Passes.pure ()

theorem exists_send {p : Task Unit} (event : String)
    (h : ∃ e ∈ p.events, e.event = some event) : ∃ data, .send event data ∈ p.events := by
  obtain ⟨e, he, hevent⟩ := h
  cases e with
  | send event' data =>
      obtain rfl := Option.some.inj hevent
      exact ⟨data, he⟩
  | setReferenceBlock sessionId block => cases hevent

/-- A slice does not panic exactly when it ends on a char boundary. -/
theorem getTo_isSome_iff {s : String} {k : ℕ} :
    (getTo s k).isSome ↔ (⟨k⟩ : String.Pos.Raw).IsValid s := by
  rw [getTo]
  split <;> simp [*]

/-! ### Events of a kind that is no error -/

section Avoids

variable {kind : Action → Prop} (herror : ∀ message, ¬ kind (.send "error" message))
include herror

theorem avoids_orError {κ α : Type} (result : Except κ α) (message : κ → String) :
    Emission.Avoids kind (orError result message) :=
  Emission.Avoids.orFail fun _ => herror _

theorem avoids_errorIf (p : Prop) [Decidable p] (message : String) :
    Emission.Avoids kind (errorIf p message) := by
  rw [errorIf]
  split
  · exact Emission.Avoids.fail (herror _)
  · exact Emission.Avoids.pure ()

theorem avoids_readProof {fh : FeltHex} {serde : SerdeJson} {o : Outcomes} (proofPath : String) :
    Emission.Avoids kind (readProof fh serde o proofPath) := by
  refine (avoids_orError herror _ _).bind fun proofB64 => ?_
  refine (avoids_orError herror _ _).bind fun proofFactsStr => ?_
  refine (avoids_orError herror _ _).bind fun proofFactsHex => ?_
  exact (avoids_orError herror _ _).bind fun proofFacts => Emission.Avoids.pure _

end Avoids

end Snip36.Streams
