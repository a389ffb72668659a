import Snip36.Streams.ProveBlock
import Snip36.Support.Replacing

/-!
# Playground — handlers

The playground keeps a session for each visitor.  This module has the session, the requests, and
what the handlers compute between two awaits: the checks at the start of a request, the
transaction of an increment, the payload of a proof, and the readings of the node's replies.
-/

namespace Snip36.Playground
open Support Signing CoinFlip Streams

/-! ### Data -/

/-- `Session`. -/
structure Session where
  accountAddress : Option String := none
  accountDeployed : Bool := false
  contractAddress : Option String := none
  classHash : Option String := none
  lastInvokeTx : Option String := none
  invokeBlock : Option (BitVec 64) := none
  proveBlock : Option (BitVec 64) := none
  proofFile : Option String := none
  deployBlock : Option (BitVec 64) := none
  lastReferenceBlock : Option (BitVec 64) := none
  deriving DecidableEq

/-- The fields that `prove_block` reads. -/
def Session.referenced (session : Session) : Streams.Session where
  contractAddress := session.contractAddress
  deployBlock := session.deployBlock
  lastReferenceBlock := session.lastReferenceBlock

/-- `InvokeRequest`. -/
structure InvokeRequest where
  sessionId : String
  amount : BitVec 64 := 1
  signatureR : String
  signatureS : String
  nonce : BitVec 64

/-- `InvokeResponse`. -/
structure InvokeResponse where
  txHash : String
  blockNumber : Option (BitVec 64)
  warning : Option String

/-- What a deployment of an account ends with. -/
structure AccountDeployment where
  accountAddress : String
  txHash : String
  receipt : Json

/-- `DeployAccountResponse`. -/
structure DeployAccountResponse where
  accountAddress : String
  txHash : String
  blockNumber : Option (BitVec 64)

/-- What a deployment of a counter ends with. -/
structure CounterDeployment where
  classHash : String
  contractAddress : String
  txHash : String
  receipt : Json

/-- `DeployCounterResponse`. -/
structure DeployCounterResponse where
  classHash : String
  contractAddress : String
  txHash : String
  blockNumber : Option (BitVec 64)

/-- `SubmitProofResponse`. -/
structure SubmitProofResponse where
  txHash : String
  localTxHash : String
  output : String

/-- What a request is answered with. -/
inductive Answer where
  | invoked (response : InvokeResponse)
  | accountDeployed (response : DeployAccountResponse)
  | counterDeployed (response : DeployCounterResponse)
  | submitted (response : SubmitProofResponse)
  | stream
  | error (response : ErrorResponse)

/-! ### Files -/

/-- What the server runs with. -/
structure Env where
  fh : FeltHex
  sc : StarknetCrypto
  serde : SerdeJson
  config : Config
  /-- `Path::join`. -/
  join : String → String → String
  /-- The file that a path names. -/
  resolve : String → String

/-- `proof_output`, of `prove_transaction` and of `prove_block`. -/
def Env.proofOutput (env : Env) (sessionId : String) : String :=
  env.join (env.join env.config.outputDir "playground") (sessionId ++ ".proof")

/-- `${PROOF_OUTPUT%.proof}`, of the characters of a path. -/
def withoutProof (path : List Char) : List Char :=
  if ".proof".toList.isSuffixOf path then path.take (path.length - 6) else path

/-- `FACTS_OUTPUT`: the file into which the facts of a proof are written. -/
def factsOutput (path : String) : String :=
  String.ofList (withoutProof path.toList ++ ".proof_facts".toList)

/-- `proof_facts_file`: the file from which `submit_proof` reads the facts of a proof. -/
def proofFactsFile (path : String) : String :=
  String.ofList (replaceAll ".proof".toList ".proof_facts".toList path.toList)

/-- What a proof was made from. -/
inductive Origin where
  /-- The transaction with a hash. -/
  | invoke (txHash : String)
  /-- The increments of a block. -/
  | block (job : ProveJob)

/-- A text that was written into a file, and what the proof or the facts in it are of; a write that
breaks off leaves neither. -/
structure Written where
  text : String
  origin : Option Origin

/-! ### Invoke -/

/-- `invoke_tx`. -/
def invokeTx (contractAddress accountAddress : String) (req : InvokeRequest) : Json :=
  .obj [
    ("type", .str "INVOKE"),
    ("version", .str "0x3"),
    ("sender_address", .str accountAddress),
    ("calldata", strings
      ["0x1", contractAddress, incrementSelector, "0x1", hexOf req.amount.toNat]),
    ("nonce", .str (hexOf req.nonce.toNat)),
    ("resource_bounds", ResourceBounds.playground.toRpcJson),
    ("tip", .str "0x0"),
    ("paymaster_data", .arr []),
    ("account_deployment_data", .arr []),
    ("nonce_data_availability_mode", .str "L1"),
    ("fee_data_availability_mode", .str "L1"),
    ("signature", strings [req.signatureR, req.signatureS])]

/-- `invoke_increment`, up to the call of the node: the contract and the account. -/
def invokeIncrement (session : Session) : Except ErrorResponse (String × String) := do
  let contractAddress ← okOr session.contractAddress
    (⟨.badRequest, "No counter contract deployed"⟩ : ErrorResponse)
  let accountAddress ← okOr session.accountAddress
    (⟨.badRequest, "No account deployed"⟩ : ErrorResponse)
  pure (contractAddress, accountAddress)

/-- The hash in the node's reply to an increment. -/
def submittedTxHash (serde : SerdeJson) (reply : Except RpcError Json) :
    Except ErrorResponse String := do
  let result ← reply.mapError fun e => (⟨.internalServerError, e.toString⟩ : ErrorResponse)
  match result.field "error" with
  | some error => .error ⟨.badRequest, serde.toString error⟩
  | none =>
      okOr (((result.field "result").bind (Json.field "transaction_hash")).bind Json.text)
        ⟨.internalServerError, "Unexpected RPC response: " ++ serde.toString result⟩

/-! ### Submit -/

/-- `submit_proof`, up to the first read: the proof file and the contract. -/
def submitProof (env : Env) (files : String → Option Written) (session : Session) :
    Except ErrorResponse (String × String) := do
  let proofFile ← okOr session.proofFile
    (⟨.badRequest, "No proof file available"⟩ : ErrorResponse)
  failIf (files (env.resolve proofFile) = none)
    (⟨.badRequest, "No proof file available"⟩ : ErrorResponse)
  let contractAddress ← okOr session.contractAddress
    (⟨.badRequest, "No counter contract in session"⟩ : ErrorResponse)
  pure (proofFile, contractAddress)

/-- The parameters of a submission but the nonce, from the texts of the two files. -/
def submitParams (env : Env) (contractAddress proof proofFactsJson : String) :
    Except ErrorResponse (Felt → SubmitParams) := do
  let internal (e : String) : ErrorResponse := ⟨.internalServerError, e⟩
  let proofFactsHex ← (env.serde.stringsFromStr proofFactsJson).mapError fun e =>
    internal ("Invalid proof_facts JSON: " ++ e)
  let proofFacts ← (proofFactsHex.mapM (feltFromHex env.fh)).mapError internal
  let contract ← (feltFromHex env.fh contractAddress).mapError internal
  let selector ← (feltFromHex env.fh incrementSelector).mapError internal
  let senderAddress ← (feltFromHex env.fh env.config.accountAddress).mapError internal
  let privateKey ← (feltFromHex env.fh env.config.privateKey).mapError internal
  let chainId ← env.config.chainIdFelt.mapError internal
  pure fun nonce => {
    senderAddress
    privateKey
    calldata := [1, contract, selector, 1, 1]
    proofBase64 := trim proof
    proofFacts
    nonce
    chainId
    resourceBounds := .playground }

end Snip36.Playground
