import Snip36.Artifacts.Bundle
import Snip36.Rpc.ServiceConfig

/-!
# Artifacts — two local provers

`export_proof_bundle` proves an artifact with the native runner, which it starts with arguments and
sends a JSON-RPC request, or with the vendored binary, which reads a JSON input.  Each comes to a
configuration, a block and a transaction (`ProverRequest`), and the prover checks the transaction
before it runs.

`provers_agree`: both prove the same transaction on the same block, with the same chain id and fee
token.  The native runner is told to skip the check of the fee fields and the binary to make it, so
that the binary also rejects the transactions with a fee.
-/

namespace Snip36.Artifacts
open Support Running Rpc

/-! ### The checks of the input -/

/-- What a prover is asked for: a transaction, on a block, under a configuration. -/
structure ProverRequest (api : StarknetApi) where
  config : ProverConfig api
  blockId : BlockId
  transaction : RpcTransaction api.RpcInvokeTransactionV3

/-- `VirtualSnosProverError`, of the checks of the input. -/
inductive VirtualSnosProverError where
  | invalidTransactionType (msg : String)
  | invalidTransactionInput (msg : String)
  | validationError (msg : String)

section Checks

variable {api : StarknetApi}

/-- `extract_rpc_invoke_tx`. -/
def extractRpcInvokeTx : RpcTransaction api.RpcInvokeTransactionV3 →
    Except VirtualSnosProverError api.RpcInvokeTransactionV3
  | .invoke tx => .ok tx
  | .declare => .error (.invalidTransactionType
      "Declare transactions are not supported; only Invoke transactions are allowed")
  | .deployAccount => .error (.invalidTransactionType
      "DeployAccount transactions are not supported; only Invoke transactions are allowed")

/-- `validate_transaction_input`. -/
def validateTransactionInput (tx : api.RpcInvokeTransactionV3) (validateZeroFeeFields : Bool) :
    Except VirtualSnosProverError Unit := do
  failIf (api.proofIsEmpty tx = false)
    (.invalidTransactionInput "The proof field must be empty on input.")
  failIf (api.proofFactsIsEmpty tx = false)
    (.invalidTransactionInput "The proof_facts field must be empty on input.")
  failIf (validateZeroFeeFields = true ∧ api.maxPossibleFee tx ≠ 0)
    (.invalidTransactionInput
      ("Max possible fee must be zero, got: " ++ api.feeToString (api.maxPossibleFee tx) ++ "."))

/-- `prove_transaction`, up to the run of the virtual OS. -/
def checkedInput (request : ProverRequest api) :
    Except VirtualSnosProverError api.RpcInvokeTransactionV3 := do
  failIf (request.blockId = .pending) (.validationError
    "Pending blocks are not supported; only finalized blocks can be proven.")
  let invokeV3 ← extractRpcInvokeTx request.transaction
  validateTransactionInput invokeV3 request.config.validateZeroFeeFields
  pure invokeV3

/-- The checks reject the transaction. -/
def ProverRequest.Rejected (request : ProverRequest api) : Prop :=
  ∃ e, checkedInput request = .error e

end Checks

/-! ### What each path sends -/

section Paths

variable {api : StarknetApi}

/-- The arguments of the native runner. -/
def runnerArgs (artifact : Snip36ProofArtifact) (port : BitVec 16) : List String := [
  "--rpc-url", artifact.rpcUrl,
  "--chain-id", artifact.chainId,
  "--port", toString port.toNat,
  "--ip", "127.0.0.1",
  "--skip-fee-field-validation",
  "--strk-fee-token-address", artifact.strkFeeTokenAddress]

/-- What these arguments say, over those that the environment has. -/
def cliArgs (environment : CliArgs) (artifact : Snip36ProofArtifact) (port : BitVec 16) :
    CliArgs :=
  { environment with
    rpcUrl := some artifact.rpcUrl
    chainId := some artifact.chainId
    port := some port
    ip := some "127.0.0.1"
    skipFeeFieldValidation := true
    strkFeeTokenAddress := some artifact.strkFeeTokenAddress }

/-- `clap`, in an environment. -/
structure Clap (environment : CliArgs) where
  parse : List String → Except String CliArgs
  /-- Arguments that are accepted go before the environment. -/
  parse_runnerArgs : ∀ {artifact port args}, parse (runnerArgs artifact port) = .ok args →
    args = cliArgs environment artifact port

/-- The request to the native runner. -/
def proveBody (artifact : Snip36ProofArtifact) : Json :=
  .obj [
    ("jsonrpc", .str "2.0"),
    ("method", .str "starknet_proveTransaction"),
    ("params", .obj [
      ("block_id", .obj [("block_number", .num artifact.blockNumber.toNat)]),
      ("transaction", artifact.transaction)]),
    ("id", .num 1)]

/-- A parameter of a request. -/
def param (name : String) (body : Json) : Except String Json :=
  okOr ((body.field "params").bind (Json.field name)) ("missing field " ++ name)

/-- What a process prints that stops short. -/
def exitText : Exit ConfigError → String
  | .err e => e.toString
  | .panic msg => msg

/-- What the native runner is asked for. -/
def nativeRequest (loader : Loader api) {environment : CliArgs} (clap : Clap environment)
    (artifact : Snip36ProofArtifact) (port : BitVec 16) : Except String (ProverRequest api) := do
  let args ← clap.parse (runnerArgs artifact port)
  let service ← (fromArgs loader args).mapError exitText
  let body := proveBody artifact
  let blockId ← (param "block_id" body).bind api.decodeBlockId
  let transaction ← (param "transaction" body).bind api.decodeTransaction
  pure { config := service.proverConfig, blockId, transaction }

/-- The config in the input of the vendored binary. -/
def directConfig (artifact : Snip36ProofArtifact) : Json :=
  .obj [
    ("rpc_node_url", .str artifact.rpcUrl),
    ("chain_id", .str artifact.chainId),
    ("validate_zero_fee_fields", .bool true),
    ("strk_fee_token_address", .str artifact.strkFeeTokenAddress)]

/-- The input of the vendored binary, with a config. -/
def directInput (config : Json) (blockNumber : BitVec 64) (transaction : Json) : Json :=
  .obj [
    ("config", config),
    ("block_number", .num blockNumber.toNat),
    ("transaction", transaction)]

/-- A field with a default. -/
def fieldOr {α : Type} (name : String) (decode : Json → Except String α) (default : α)
    (v : Json) : Except String α :=
  match v.field name with
  | some field => decode field
  | none => .ok default

def decodeString (v : Json) : Except String String := okOr v.text "invalid type: expected a string"

def decodeBool : Json → Except String Bool
  | .bool b => .ok b
  | _ => .error "invalid type: expected a boolean"

/-- An `Option`. -/
def decodeOption {α : Type} (decode : Json → Except String α) : Json → Except String (Option α)
  | .null => .ok none
  | v => (decode v).map some

/-- `ProverConfig`, deserialized. -/
def decodeProverConfig (api : StarknetApi) (v : Json) : Except String (ProverConfig api) := do
  let default := ProverConfig.default api
  let contractClassManagerConfig ← fieldOr "contract_class_manager_config"
    api.decodeContractClassManagerConfig default.contractClassManagerConfig v
  let chainId ← fieldOr "chain_id" api.chainIdFromJson default.chainId v
  let rpcNodeUrl ← fieldOr "rpc_node_url" decodeString default.rpcNodeUrl v
  let runnerConfig ← fieldOr "runner_config" api.decodeRunnerConfig default.runnerConfig v
  let strkFeeTokenAddress ← fieldOr "strk_fee_token_address"
    (decodeOption api.contractAddressFromJson) default.strkFeeTokenAddress v
  let validateZeroFeeFields ← fieldOr "validate_zero_fee_fields" decodeBool
    default.validateZeroFeeFields v
  pure { contractClassManagerConfig, chainId, rpcNodeUrl, runnerConfig, strkFeeTokenAddress,
         validateZeroFeeFields }

/-- `prove_json`, the vendored binary. -/
structure ProveJson (api : StarknetApi) where
  read : Json → Except String (ProverRequest api)
  /-- It proves the transaction of its input on the block, under the config. -/
  read_directInput : ∀ {config blockNumber transaction request},
    read (directInput config blockNumber transaction) = .ok request →
      decodeProverConfig api config = .ok request.config ∧
      request.blockId = .number blockNumber.toNat ∧
      api.decodeTransaction transaction = .ok request.transaction

/-- What the vendored binary is asked for. -/
def directRequest (bin : ProveJson api) (artifact : Snip36ProofArtifact) :
    Except String (ProverRequest api) :=
  bin.read (directInput (directConfig artifact) artifact.blockNumber artifact.transaction)

/-- The request is for the transaction of an artifact, on its block, with its node and chain. -/
structure RequestFor (artifact : Snip36ProofArtifact) (request : ProverRequest api) : Prop where
  blockId : request.blockId = .number artifact.blockNumber.toNat
  transaction : api.decodeTransaction artifact.transaction = .ok request.transaction
  rpcNodeUrl : request.config.rpcNodeUrl = artifact.rpcUrl
  chainId : request.config.chainId = api.chainIdFrom artifact.chainId

/-- **What the native runner is asked for.** -/
theorem nativeRequest_ok {loader : Loader api} {environment : CliArgs} {clap : Clap environment}
    {artifact : Snip36ProofArtifact} {port : BitVec 16} {request : ProverRequest api}
    (h : nativeRequest loader clap artifact port = .ok request) :
    RequestFor artifact request ∧
      (∃ a, api.contractAddressFromStr artifact.strkFeeTokenAddress = .ok a ∧
        request.config.strkFeeTokenAddress = some a) ∧
      request.config.validateZeroFeeFields = false := by
  obtain ⟨args, hargs, h⟩ := bind_eq_ok.mp h
  obtain ⟨service, hservice, h⟩ := bind_eq_ok.mp h
  obtain ⟨blockId, hblockId, h⟩ := bind_eq_ok.mp h
  obtain ⟨transaction, htransaction, h⟩ := bind_eq_ok.mp h
  obtain rfl := pure_eq_ok.mp h
  obtain rfl := clap.parse_runnerArgs hargs
  obtain ⟨raw, -, -, hmerges⟩ := accepts_and_merges (mapError_eq_ok.mp hservice)
  have hvalidate : service.proverConfig.validateZeroFeeFields = false := by
    rw [← Bool.not_eq_true, hmerges.validateZeroFeeFields]
    exact fun h => Bool.false_ne_true h.2.symm
  have hblock : param "block_id" (proveBody artifact)
      = .ok (.obj [("block_number", .num artifact.blockNumber.toNat)]) := by
    simp [param, proveBody, okOr]
  have htx : param "transaction" (proveBody artifact) = .ok artifact.transaction := by
    simp [param, proveBody, okOr]
  rw [hblock] at hblockId
  rw [htx] at htransaction
  have hnumber := (api.decodeBlockId_number artifact.blockNumber.toNat).symm.trans hblockId
  exact ⟨⟨(Except.ok.inj hnumber).symm, htransaction, hmerges.rpcNodeUrl, hmerges.chainId⟩,
    hmerges.strkFeeTokenAddress, hvalidate⟩

/-- **What the vendored binary is asked for.** -/
theorem directRequest_ok {bin : ProveJson api} {artifact : Snip36ProofArtifact}
    {request : ProverRequest api} (h : directRequest bin artifact = .ok request) :
    RequestFor artifact request ∧
      (∃ a, api.contractAddressFromJson (.str artifact.strkFeeTokenAddress) = .ok a ∧
        request.config.strkFeeTokenAddress = some a) ∧
      request.config.validateZeroFeeFields = true := by
  obtain ⟨hconfig, hblockId, htransaction⟩ := bin.read_directInput h
  obtain ⟨manager, -, hconfig⟩ := bind_eq_ok.mp hconfig
  obtain ⟨chainId, hchainId, hconfig⟩ := bind_eq_ok.mp hconfig
  obtain ⟨rpcNodeUrl, hrpcNodeUrl, hconfig⟩ := bind_eq_ok.mp hconfig
  obtain ⟨runner, -, hconfig⟩ := bind_eq_ok.mp hconfig
  obtain ⟨strk, hstrk, hconfig⟩ := bind_eq_ok.mp hconfig
  obtain ⟨validate, hvalidate, hconfig⟩ := bind_eq_ok.mp hconfig
  have hrequest := pure_eq_ok.mp hconfig
  simp only [fieldOr, directConfig, Json.field_cons, String.reduceEq, if_true, if_false,
    api.chainIdFromJson_str] at hchainId hrpcNodeUrl hstrk hvalidate
  have hrpcNodeUrl' : request.config.rpcNodeUrl = artifact.rpcUrl :=
    hrequest ▸ (Except.ok.inj hrpcNodeUrl).symm
  have hchainId' : request.config.chainId = api.chainIdFrom artifact.chainId :=
    hrequest ▸ (Except.ok.inj hchainId).symm
  refine ⟨⟨hblockId, htransaction, hrpcNodeUrl', hchainId'⟩, ?_,
    hrequest ▸ (Except.ok.inj hvalidate).symm⟩
  rw [← hrequest]
  change (api.contractAddressFromJson (.str artifact.strkFeeTokenAddress)).map some = _ at hstrk
  cases ha : api.contractAddressFromJson (.str artifact.strkFeeTokenAddress) with
  | error e =>
      rw [ha] at hstrk
      cases hstrk
  | ok a =>
      rw [ha] at hstrk
      exact ⟨a, rfl, (Except.ok.inj hstrk).symm⟩

/-! ### The verdicts -/

/-- A transaction that only the check of the fee fields rejects. -/
def ProverRequest.OnlyFee (request : ProverRequest api) : Prop :=
  ∃ tx, request.transaction = .invoke tx ∧ api.proofIsEmpty tx = true ∧
    api.proofFactsIsEmpty tx = true ∧ api.maxPossibleFee tx ≠ 0

/-- What is accepted: an invoke transaction with no proof, and with no fee when that is checked. -/
theorem not_rejected_iff (request : ProverRequest api) (hblock : request.blockId ≠ .pending) :
    ¬ request.Rejected ↔ ∃ tx, request.transaction = .invoke tx ∧ api.proofIsEmpty tx = true ∧
      api.proofFactsIsEmpty tx = true ∧
      (request.config.validateZeroFeeFields = true → api.maxPossibleFee tx = 0) := by
  have hrejected : ¬ request.Rejected ↔ ∃ tx, checkedInput request = .ok tx := by
    rw [ProverRequest.Rejected]
    cases checkedInput request <;> simp
  rw [hrejected]
  constructor
  · rintro ⟨tx, h⟩
    obtain ⟨-, h⟩ := check_bind_eq_ok.mp h
    obtain ⟨invokeV3, htx, h⟩ := bind_eq_ok.mp h
    obtain ⟨hvalid, -⟩ := check_bind_eq_ok.mp h
    obtain ⟨hproof, hvalid⟩ := check_bind_eq_ok.mp hvalid
    obtain ⟨hfacts, hfee⟩ := check_bind_eq_ok.mp hvalid
    rw [failIf_eq_ok, Bool.not_eq_false] at hproof hfacts
    rw [failIf_eq_ok, not_and, not_not] at hfee
    refine ⟨invokeV3, ?_, hproof, hfacts, hfee⟩
    cases htransaction : request.transaction with
    | invoke tx =>
        rw [htransaction] at htx
        rw [Except.ok.inj htx]
    | declare =>
        rw [htransaction] at htx
        cases htx
    | deployAccount =>
        rw [htransaction] at htx
        cases htx
  · rintro ⟨tx, htransaction, hproof, hfacts, hfee⟩
    refine ⟨tx, check_bind_eq_ok.mpr ⟨failIf_eq_ok.mpr hblock, bind_eq_ok.mpr ⟨tx, ?_, ?_⟩⟩⟩
    · rw [htransaction]
      rfl
    · refine check_bind_eq_ok.mpr ⟨?_, rfl⟩
      refine check_bind_eq_ok.mpr ⟨failIf_eq_ok.mpr (by simp [hproof]), ?_⟩
      refine check_bind_eq_ok.mpr ⟨failIf_eq_ok.mpr (by simp [hfacts]), ?_⟩
      rw [failIf_eq_ok, not_and, not_not]
      exact hfee

/-- **Both paths ask for the same proof, and the vendored binary also rejects what has a fee.** -/
theorem provers_agree {loader : Loader api} {environment : CliArgs} {clap : Clap environment}
    {bin : ProveJson api} {artifact : Snip36ProofArtifact} {port : BitVec 16}
    {native direct : ProverRequest api}
    (hnative : nativeRequest loader clap artifact port = .ok native)
    (hdirect : directRequest bin artifact = .ok direct) :
    native.blockId = direct.blockId ∧ native.transaction = direct.transaction ∧
      native.config.chainId = direct.config.chainId ∧
      native.config.strkFeeTokenAddress = direct.config.strkFeeTokenAddress ∧
      native.config.validateZeroFeeFields = false ∧
      direct.config.validateZeroFeeFields = true ∧
      (direct.Rejected ↔ native.Rejected ∨ native.OnlyFee) ∧
      ¬ (native.Rejected ∧ native.OnlyFee) := by
  obtain ⟨hn, ⟨a, ha, hna⟩, hnvalidate⟩ := nativeRequest_ok hnative
  obtain ⟨hd, ⟨a', ha', hda⟩, hdvalidate⟩ := directRequest_ok hdirect
  obtain rfl := api.contractAddress_unique _ _ _ ha ha'
  have htx : native.transaction = direct.transaction :=
    Except.ok.inj (hn.transaction.symm.trans hd.transaction)
  have hnaccepted := not_rejected_iff native (by rw [hn.blockId]; simp)
  have hdaccepted := not_rejected_iff direct (by rw [hd.blockId]; simp)
  rw [hnvalidate] at hnaccepted
  rw [hdvalidate, ← htx] at hdaccepted
  refine ⟨hn.blockId.trans hd.blockId.symm, htx, hn.chainId.trans hd.chainId.symm,
    hna.trans hda.symm, hnvalidate, hdvalidate, ?_, ?_⟩
  · constructor
    · intro hrejected
      by_contra hnone
      obtain ⟨hnative, hfee⟩ := not_or.mp hnone
      obtain ⟨tx, htransaction, hproof, hfacts, -⟩ := hnaccepted.mp hnative
      refine hdaccepted.mpr ⟨tx, htransaction, hproof, hfacts, fun _ => ?_⟩ hrejected
      by_contra hne
      exact hfee ⟨tx, htransaction, hproof, hfacts, hne⟩
    · rintro h
      by_contra hdirect
      obtain ⟨tx, htransaction, hproof, hfacts, hzero⟩ := hdaccepted.mp hdirect
      rcases h with hrejected | ⟨tx', htransaction', -, -, hne⟩
      · exact hnaccepted.mpr ⟨tx, htransaction, hproof, hfacts, fun h => (nomatch h)⟩ hrejected
      · obtain rfl := RpcTransaction.invoke.inj (htransaction.symm.trans htransaction')
        exact hne (hzero rfl)
  · rintro ⟨hrejected, tx, htransaction, hproof, hfacts, -⟩
    exact hnaccepted.mpr ⟨tx, htransaction, hproof, hfacts, fun h => (nomatch h)⟩ hrejected

end Paths

/-! ### A transaction with a fee -/

/-- The fields of a transaction that the checks read. -/
structure SampleTransaction where
  tip : BitVec 64
  resourceBounds : Signing.ResourceBounds
  proof : String
  proofFacts : List Json

/-- A bound in full, with something on top of the price. -/
def boundFee (bound : Signing.ResourceBound) (tip : ℕ) : ℕ :=
  bound.maxAmount.toNat * (bound.maxPricePerUnit.toNat + tip)

/-- Transactions from JSON, chain ids as texts, and addresses as numbers. -/
def sampleApi : StarknetApi where
  ChainId := String
  decEqChainId := inferInstance
  ContractAddress := ℕ
  decEqContractAddress := inferInstance
  RpcInvokeTransactionV3 := SampleTransaction
  ContractClassManagerConfig := ℕ
  BouncerConfig := Unit
  chainIdFrom := id
  mainnet := "SN_MAIN"
  chainIdFromJson v := okOr v.text "invalid type: expected a string"
  chainIdFromJson_str _ := rfl
  contractAddressFromStr s := okOr (hexNat? s) "invalid felt"
  contractAddressFromJson v := okOr (v.text.bind hexNat?) "invalid felt"
  contractAddress_unique _ _ _ h h' := Except.ok.inj (h.symm.trans h')
  decodeBlockId v :=
    match v.field "block_number" with
    | some (.num n) => .ok (.number n.toNat)
    | _ => .error "unknown variant"
  decodeBlockId_number _ := rfl
  decodeTransaction v := do
    let type ← okOr ((v.field "type").bind Json.text) "missing field `type`"
    if type = "DECLARE" then pure .declare
    else if type = "DEPLOY_ACCOUNT" then pure .deployAccount
    else
      let tip ← okOr ((v.field "tip").bind (Signing.wordValue 64)) "missing field `tip`"
      let resourceBounds ← okOr ((v.field "resource_bounds").bind Signing.decodeBounds)
        "missing field `resource_bounds`"
      let proof := ((v.field "proof").bind Json.text).getD ""
      let proofFacts := ((v.field "proof_facts").bind Json.elems).getD []
      pure (.invoke { tip, resourceBounds, proof, proofFacts })
  proofIsEmpty tx := tx.proof = ""
  proofFactsIsEmpty tx := tx.proofFacts.isEmpty
  maxPossibleFee tx :=
    boundFee tx.resourceBounds.l1Gas 0 + boundFee tx.resourceBounds.l2Gas tx.tip.toNat
      + boundFee tx.resourceBounds.l1DataGas 0
  feeToString := toString
  contractClassManagerDefault := 600
  withContractCacheSize := id
  bouncerDefault := ()
  decodeContractClassManagerConfig _ := .ok 600
  decodeRunnerConfig _ := .ok ⟨storageProofDefault, ⟨true, (), true⟩⟩

/-- No files, and the local address. -/
def sampleLoader : Loader sampleApi where
  readToString _ := .error "No such file or directory (os error 2)"
  rawServiceConfigFromStr _ := .ok (.default sampleApi)
  bouncerConfigFromStr _ := .ok ()
  embeddedBouncerConfig := "\x7b\x7d"
  parseIp text :=
    if text = "127.0.0.1" then .ok (.v4 127 0 0 1) else .error "invalid IP address syntax"
  url := ⟨fun _ => .error "relative URL without a base"⟩

/-- An environment with no settings. -/
def sampleEnvironment : CliArgs where
  configFile := none
  rpcUrl := none
  chainId := none
  port := none
  ip := none
  maxConcurrentRequests := none
  maxConnections := none
  tlsCertFile := none
  tlsKeyFile := none
  strkFeeTokenAddress := none
  prefetchState := none
  useLatestVersionedConstants := none
  skipFeeFieldValidation := false
  noCors := false
  corsAllowOrigin := []
  compiledClassCacheSize := none
  bouncerConfigOverride := none

/-- An artifact of an invoke transaction with bounds. -/
def artifactWith (bounds : Signing.ResourceBounds) : Snip36ProofArtifact :=
  { sampleArtifact with
    transaction := .obj [("type", .str "INVOKE"), ("version", .str "0x3"), ("tip", .str "0x0"),
      ("resource_bounds", bounds.toRpcJson)] }

/-- `clap`, on arguments in the order of the runner's. -/
def sampleParse : List String → Except String CliArgs
  | ["--rpc-url", rpcUrl, "--chain-id", chainId, "--port", port, "--ip", ip,
      "--skip-fee-field-validation", "--strk-fee-token-address", strkFeeTokenAddress] =>
      match port.toNat? with
      | some n =>
          if n < 2 ^ 16 then
            .ok { sampleEnvironment with
              rpcUrl := some rpcUrl
              chainId := some chainId
              port := some (BitVec.ofNat 16 n)
              ip := some ip
              skipFeeFieldValidation := true
              strkFeeTokenAddress := some strkFeeTokenAddress }
          else .error "port is not in 0..=65535"
      | none => .error "invalid digit found in string"
  | _ => .error "unexpected argument"

theorem sampleParse_runnerArgs (artifact : Snip36ProofArtifact) (port : BitVec 16) :
    sampleParse (runnerArgs artifact port) = .ok (cliArgs sampleEnvironment artifact port) := by
  have hport : (toString port.toNat).toNat? = some port.toNat := Nat.toNat?_repr port.toNat
  simp only [sampleParse, runnerArgs, hport, if_pos port.isLt, cliArgs, BitVec.ofNat_toNat,
    BitVec.setWidth_eq]

def sampleClap : Clap sampleEnvironment where
  parse := sampleParse
  parse_runnerArgs h := (Except.ok.inj ((sampleParse_runnerArgs _ _).symm.trans h)).symm

/-- The binary, on inputs whose fields it can read. -/
def sampleProveJson : ProveJson sampleApi where
  read input := do
    let config ← okOr (input.field "config") "missing field `config`"
    let config ← decodeProverConfig sampleApi config
    let block ← okOr (input.field "block_number") "missing field `block_number`"
    let transaction ← okOr (input.field "transaction") "missing field `transaction`"
    let transaction ← sampleApi.decodeTransaction transaction
    match block with
    | .num n => pure { config, blockId := .number n.toNat, transaction }
    | _ => .error "invalid type: expected u64"
  read_directInput := by
    intro config blockNumber transaction request h
    obtain ⟨config', hconfig', h⟩ := bind_eq_ok.mp h
    obtain ⟨decoded, hdecoded, h⟩ := bind_eq_ok.mp h
    obtain ⟨block, hblock, h⟩ := bind_eq_ok.mp h
    obtain ⟨tx, htx, h⟩ := bind_eq_ok.mp h
    obtain ⟨transaction', htransaction', hend⟩ := bind_eq_ok.mp h
    simp only [directInput, Json.field_cons, String.reduceEq, if_true, if_false, okOr,
      Except.ok.injEq] at hconfig' hblock htx
    subst hconfig' hblock htx
    obtain rfl := pure_eq_ok.mp hend
    exact ⟨hdecoded, rfl, htransaction'⟩

/-- The transaction of an artifact with bounds. -/
theorem decodeTransaction_sample (bounds : Signing.ResourceBounds) :
    sampleApi.decodeTransaction (artifactWith bounds).transaction
      = .ok (.invoke ⟨0, bounds, "", []⟩) := by
  have htip : Signing.wordValue 64 (.str "0x0") = some 0 := Signing.wordValue_hexOf 0
  simp [sampleApi, artifactWith, okOr, Json.text, htip, bind, Except.bind, pure, Except.pure]

/-- Both paths make a request for such an artifact. -/
theorem requests_sample (bounds : Signing.ResourceBounds) :
    ∃ native direct, nativeRequest sampleLoader sampleClap (artifactWith bounds) 9900 = .ok native ∧
      directRequest sampleProveJson (artifactWith bounds) = .ok direct := by
  obtain ⟨service, hservice⟩ := exists_eq_ok (x := fromArgs sampleLoader
    (cliArgs sampleEnvironment sampleArtifact 9900)) (by decide +kernel)
  obtain ⟨config, hconfig⟩ := exists_eq_ok (x := decodeProverConfig sampleApi
    (directConfig sampleArtifact)) (by decide +kernel)
  have htx := decodeTransaction_sample bounds
  refine ⟨⟨service.proverConfig, .number 7, .invoke ⟨0, bounds, "", []⟩⟩,
    ⟨config, .number 7, .invoke ⟨0, bounds, "", []⟩⟩, ?_, ?_⟩
  · refine bind_eq_ok.mpr ⟨_, sampleParse_runnerArgs _ _, ?_⟩
    refine bind_eq_ok.mpr ⟨service, mapError_eq_ok.mpr hservice, ?_⟩
    exact bind_eq_ok.mpr ⟨.number 7, rfl, bind_eq_ok.mpr ⟨_, htx, rfl⟩⟩
  · refine bind_eq_ok.mpr ⟨directConfig (artifactWith bounds), rfl, ?_⟩
    refine bind_eq_ok.mpr ⟨config, hconfig, ?_⟩
    refine bind_eq_ok.mpr ⟨.num 7, rfl, ?_⟩
    exact bind_eq_ok.mpr ⟨(artifactWith bounds).transaction, rfl,
      bind_eq_ok.mpr ⟨_, htx, rfl⟩⟩

theorem provers_agree_sample :
    ∃ native direct,
      nativeRequest sampleLoader sampleClap (artifactWith .playground) 9900 = .ok native ∧
      directRequest sampleProveJson (artifactWith .playground) = .ok direct ∧
      native.transaction = direct.transaction ∧ direct.Rejected ∧ ¬ native.Rejected := by
  obtain ⟨native, direct, hnative, hdirect⟩ := requests_sample .playground
  obtain ⟨-, htx, -, -, -, -, hverdict, hapart⟩ := provers_agree hnative hdirect
  have htransaction := Except.ok.inj ((decodeTransaction_sample .playground).symm.trans
    (nativeRequest_ok hnative).1.transaction)
  have hfee : native.OnlyFee := ⟨_, htransaction.symm, rfl, rfl, by decide +kernel⟩
  exact ⟨native, direct, hnative, hdirect, htx, hverdict.mpr (.inr hfee),
    fun h => hapart ⟨h, hfee⟩⟩

/-- A transaction with the bounds of the playground is checked by both paths, and rejected by
one. -/
theorem verdicts_differ :
    ∃ native direct,
      nativeRequest sampleLoader sampleClap (artifactWith .playground) 9900 = .ok native ∧
      directRequest sampleProveJson (artifactWith .playground) = .ok direct ∧
      native.config.validateZeroFeeFields ≠ direct.config.validateZeroFeeFields ∧
      ¬ (native.Rejected ↔ direct.Rejected) := by
  obtain ⟨native, direct, hnative, hdirect⟩ := requests_sample .playground
  obtain ⟨hn, -, hnvalidate⟩ := nativeRequest_ok hnative
  obtain ⟨hd, -, hdvalidate⟩ := directRequest_ok hdirect
  have hntx := Except.ok.inj ((decodeTransaction_sample .playground).symm.trans hn.transaction)
  have hdtx := Except.ok.inj ((decodeTransaction_sample .playground).symm.trans hd.transaction)
  have hnative' : ¬ native.Rejected := by
    refine (not_rejected_iff native (by rw [hn.blockId]; simp)).mpr ⟨_, hntx.symm, rfl, rfl, ?_⟩
    rw [hnvalidate]
    exact fun h => (nomatch h)
  have hdirect' : direct.Rejected := by
    by_contra h
    obtain ⟨tx, htx, -, -, hzero⟩ := (not_rejected_iff direct (by rw [hd.blockId]; simp)).mp h
    obtain rfl := RpcTransaction.invoke.inj (hdtx.trans htx)
    exact absurd (hzero hdvalidate) (by decide +kernel)
  refine ⟨native, direct, hnative, hdirect, ?_, fun h => hnative' (h.mpr hdirect')⟩
  rw [hnvalidate, hdvalidate]
  decide

end Snip36.Artifacts
