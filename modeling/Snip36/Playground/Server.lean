import Snip36.Playground.Handlers
import Snip36.Support.Runs

/-!
# Playground — the server

The requests of the playground, any number of them in flight at once: deploying an account and a
counter, an increment (`invoke_increment`), the proof of an increment (`prove_transaction`), a
proved block of increments (`prove_block`), and the submission of a proof (`submit_proof`).
`step` is one move of one of them, from one await to the next, or a write of a prover that one of
them started.

The proofs of a session go through files whose names depend on the session alone.
-/

namespace Snip36.Playground
open Support Signing CoinFlip Streams

/-! ### Requests in flight -/

/-- How far the task of `prove_transaction` has come. -/
inductive ProvePhase where
  | started
  /-- It waits for the transaction. -/
  | waiting
  /-- It knows the block of the transaction. -/
  | located (invokeBlock : BitVec 64)
  /-- It has stored the block to prove against. -/
  | preparing (proveBlock : BitVec 64)
  /-- It waits for the script. -/
  | running
  /-- It has found a proof file. -/
  | found
  deriving DecidableEq

/-- How far the task of `prove_block` has come. -/
inductive BlockPhase where
  | proving
  | submitting
  | verifying
  deriving DecidableEq

/-- How far a request has come. -/
inductive Request where
  | deployingAccount (sessionId : String)
  | deployingCounter (sessionId : String)
  /-- It waits for the hash of the increment. -/
  | invoking (req : InvokeRequest) (contractAddress : String)
  /-- It waits for the receipt of the increment. -/
  | confirming (req : InvokeRequest) (txHash : String)
  | proving (sessionId txHash : String) (phase : ProvePhase)
  | provingBlock (job : ProveJob) (phase : BlockPhase)
  | readingProof (sessionId proofFile contractAddress : String)
  | readingFacts (sessionId proofFile contractAddress : String) (proof : Written)
  /-- It waits for the nonce. -/
  | signing (sessionId contractAddress : String) (proof facts : Written)
      (params : Felt → SubmitParams)
  | submitting (sessionId : String) (txHash : Felt)

/-- The session of a request. -/
def Request.sessionId : Request → String
  | .deployingAccount sessionId | .deployingCounter sessionId => sessionId
  | .invoking req _ | .confirming req _ => req.sessionId
  | .proving sessionId _ _ => sessionId
  | .provingBlock job _ => job.sessionId
  | .readingProof sessionId _ _ | .readingFacts sessionId _ _ _ => sessionId
  | .signing sessionId _ _ _ _ | .submitting sessionId _ => sessionId

/-- The request is the handler's own: it ends when the client goes away. -/
def Request.cancellable : Request → Bool
  | .proving .. | .provingBlock .. => false
  | _ => true

/-- A prover script: its arguments, what it has written whole, and its exit. -/
structure Script where
  sessionId : String
  txHash : String
  blockNumber : BitVec 64
  wroteProof : Bool
  wroteFacts : Bool
  /-- Whether it was a success, when it has exited. -/
  exit : Option Bool
  deriving DecidableEq

/-- What is said to a client. -/
inductive Said where
  | answer (a : Answer)
  | event (name data : String)

/-- A proof that was reported, with the event `complete`: the request, its session, its
transaction. -/
structure Report where
  rid : ℕ
  sessionId : String
  txHash : String
  deriving DecidableEq

/-- A payload that was signed: the contract of its calldata, its proof and its facts. -/
structure Payload where
  contractAddress : String
  proof : Written
  facts : Written
  invokeTx : Json

/-- A block of increments that landed, and the reference block before it. -/
structure Landing where
  sessionId : String
  before : Option (BitVec 64)
  block : BitVec 64

/-- `AppState`, the files, the scripts, the requests in flight, and what has happened so far. -/
structure Server where
  sessions : String → Session
  files : String → Option Written
  scripts : ℕ → Option Script
  nextId : ℕ
  requests : ℕ → Option Request
  reports : List Report
  payloads : List Payload
  landings : List Landing
  said : List (ℕ × Said)

/-- `AppState::new`, over the files that are there. -/
def Server.new (files : String → Option Written) : Server :=
  ⟨fun _ => {}, files, fun _ => none, 0, fun _ => none, [], [], [], []⟩

/-- What happens at the server. -/
inductive Event where
  | deployAccount (rid : ℕ) (sessionId : String)
  | accountDeployed (rid : ℕ) (outcome : Except ErrorResponse AccountDeployment)
  | deployCounter (rid : ℕ) (sessionId : String)
  | counterDeployed (rid : ℕ) (outcome : Except ErrorResponse CounterDeployment)
  | invoke (rid : ℕ) (req : InvokeRequest)
  | submitted (rid : ℕ) (reply : Except RpcError Json)
  | confirmed (rid : ℕ) (reply : Except RpcError Json)
  | prove (rid : ℕ) (sessionId : String)
  | readInvokeBlock (rid : ℕ)
  | included (rid : ℕ) (reply : Except RpcError Json)
  | storeProveBlock (rid : ℕ)
  /-- The output directory is made and the script is spawned, or an error is sent. -/
  | spawned (rid : ℕ) (outcome : Except String Unit)
  /-- The script writes the proof, whole or not. -/
  | writeProof (rid : ℕ) (text : String) (whole : Bool)
  /-- The script writes the facts, whole or not. -/
  | writeFacts (rid : ℕ) (text : String) (whole : Bool)
  | exited (rid : ℕ) (success : Bool)
  | checkProof (rid : ℕ)
  | recordProof (rid : ℕ) (metadataLen : Except String (BitVec 64))
  | proveBlock (rid : ℕ) (sessionId : String) (params : ProveBlockQuery)
  /-- The prover of a block writes its proof, or its facts. -/
  | blockWrites (rid : ℕ) (facts : Bool) (text : String) (whole : Bool)
  /-- The block is proved, or an error is sent. -/
  | blockProved (rid : ℕ) (outcome : Except String Unit)
  | blockSubmitted (rid : ℕ) (outcome : Except String Unit)
  | blockConfirmed (rid : ℕ) (reply : Except RpcError Json)
  | submit (rid : ℕ) (sessionId : String)
  | readProof (rid : ℕ) (error : Option String)
  | readFacts (rid : ℕ) (error : Option String)
  | nonce (rid : ℕ) (reply : Except RpcError (BitVec 64))
  | sent (rid : ℕ) (reply : Except RpcError String)
  | cancel (rid : ℕ)

namespace Server

/-- A request comes in, under the next id, and is at its first await. -/
def arrive (s : Server) (rid : ℕ) (r : Request) : Option Server :=
  if rid = s.nextId then
    some { s with nextId := rid + 1, requests := Function.update s.requests rid (some r) }
  else none

/-- A request comes in, under the next id, and is rejected. -/
def reject (s : Server) (rid : ℕ) (response : ErrorResponse) : Option Server :=
  if rid = s.nextId then
    some { s with nextId := rid + 1, said := s.said ++ [(rid, .answer (.error response))] }
  else none

/-- A request goes on. -/
def goOn (s : Server) (rid : ℕ) (r : Request) : Server :=
  { s with requests := Function.update s.requests rid (some r) }

/-- A request ends, and something is said. -/
def ends (s : Server) (rid : ℕ) (said : Said) : Server :=
  { s with
    requests := Function.update s.requests rid none
    said := s.said ++ [(rid, said)] }

/-- Something is said. -/
def say (s : Server) (rid : ℕ) (said : Said) : Server := { s with said := s.said ++ [(rid, said)] }

/-- `update_session_with`. -/
def updateSessionWith (s : Server) (sessionId : String) (f : Session → Session) : Server :=
  { s with sessions := Function.update s.sessions sessionId (f (s.sessions sessionId)) }

/-- A file is written. -/
def write (s : Server) (file : String) (written : Written) : Server :=
  { s with files := Function.update s.files file (some written) }

/-- What is known of a script changes. -/
def updateScript (s : Server) (rid : ℕ) (script : Script) : Server :=
  { s with scripts := Function.update s.scripts rid (some script) }

end Server

variable (env : Env)

/-- One move. -/
def step (s : Server) : Event → Option Server
  -- `deploy_account`
  | .deployAccount rid sessionId => s.arrive rid (.deployingAccount sessionId)
  | .accountDeployed rid outcome =>
      match s.requests rid, outcome with
      | some (.deployingAccount sessionId), .ok d =>
          let s := s.updateSessionWith sessionId fun session => { session with
            accountAddress := some d.accountAddress
            accountDeployed := true }
          some (s.ends rid (.answer (.accountDeployed
            ⟨d.accountAddress, d.txHash, receiptBlockNumber d.receipt⟩)))
      | some (.deployingAccount _), .error e => some (s.ends rid (.answer (.error e)))
      | _, _ => none
  -- `deploy_counter`
  | .deployCounter rid sessionId => s.arrive rid (.deployingCounter sessionId)
  | .counterDeployed rid outcome =>
      match s.requests rid, outcome with
      | some (.deployingCounter sessionId), .ok d =>
          let blockNumber := receiptBlockNumber d.receipt
          let s := s.updateSessionWith sessionId fun session => { session with
            contractAddress := some d.contractAddress
            classHash := some d.classHash
            deployBlock := blockNumber
            lastReferenceBlock := blockNumber }
          some (s.ends rid (.answer (.counterDeployed
            ⟨d.classHash, d.contractAddress, d.txHash, blockNumber⟩)))
      | some (.deployingCounter _), .error e => some (s.ends rid (.answer (.error e)))
      | _, _ => none
  -- `invoke_increment`
  | .invoke rid req =>
      match invokeIncrement (s.sessions req.sessionId) with
      | .ok addresses => s.arrive rid (.invoking req addresses.1)
      | .error e => s.reject rid e
  | .submitted rid reply =>
      match s.requests rid with
      | some (.invoking req _) =>
          match submittedTxHash env.serde reply with
          | .ok txHash =>
              let s := s.updateSessionWith req.sessionId fun session =>
                { session with lastInvokeTx := some txHash }
              some (s.goOn rid (.confirming req txHash))
          | .error e => some (s.ends rid (.answer (.error e)))
      | _ => none
  | .confirmed rid reply =>
      match s.requests rid, reply with
      | some (.confirming req txHash), .ok receipt =>
          match receiptBlockNumber receipt with
          | some block =>
              let s := s.updateSessionWith req.sessionId fun session =>
                { session with invokeBlock := some block }
              some (s.ends rid (.answer (.invoked ⟨txHash, some block, none⟩)))
          | none => some (s.ends rid (.answer (.invoked ⟨txHash, none, none⟩)))
      | some (.confirming _ txHash), .error _ =>
          some (s.ends rid (.answer (.invoked
            ⟨txHash, none, some "Tx submitted but not yet confirmed"⟩)))
      | _, _ => none
  -- `prove_transaction`
  | .prove rid sessionId =>
      match (s.sessions sessionId).lastInvokeTx with
      | some txHash =>
          let s := (s.say rid (.answer .stream)).say rid
            (.event "log" ("Starting proof generation for " ++ txHash ++ "..."))
          s.arrive rid (.proving sessionId txHash .started)
      | none => s.reject rid ⟨.badRequest, "No invoke tx to prove"⟩
  | .readInvokeBlock rid =>
      match s.requests rid with
      | some (.proving sessionId txHash .started) =>
          match (s.sessions sessionId).invokeBlock with
          | some block => some (s.goOn rid (.proving sessionId txHash (.located block)))
          | none =>
              let s := s.say rid (.event "log" "Waiting for tx inclusion...")
              some (s.goOn rid (.proving sessionId txHash .waiting))
      | _ => none
  | .included rid reply =>
      match s.requests rid, reply with
      | some (.proving sessionId txHash .waiting), .ok receipt =>
          match receiptBlockNumber receipt with
          | some block => some (s.goOn rid (.proving sessionId txHash (.located block)))
          | none => some (s.ends rid (.event "error" "Could not determine block number"))
      | some (.proving _ _ .waiting), .error _ =>
          some (s.ends rid (.event "error" "Tx not included in time"))
      | _, _ => none
  | .storeProveBlock rid =>
      match s.requests rid with
      | some (.proving sessionId txHash (.located block)) =>
          if block = 0 then
            some (s.ends rid (.event "error"
              "Cannot prove against block before genesis (invoke_block is 0)"))
          else
            let s := s.say rid (.event "log" ("Tx included in block " ++ toString block.toNat
              ++ ". Proving against block " ++ toString (block - 1).toNat ++ "..."))
            let s := s.updateSessionWith sessionId fun session =>
              { session with proveBlock := some (block - 1) }
            some (s.goOn rid (.proving sessionId txHash (.preparing (block - 1))))
      | _ => none
  | .spawned rid outcome =>
      match s.requests rid, outcome with
      | some (.proving sessionId txHash (.preparing block)), .ok () =>
          let s := s.updateScript rid ⟨sessionId, txHash, block, false, false, none⟩
          some (s.goOn rid (.proving sessionId txHash .running))
      | some (.proving _ _ (.preparing _)), .error e => some (s.ends rid (.event "error" e))
      | _, _ => none
  | .checkProof rid =>
      match s.requests rid, s.scripts rid with
      | some (.proving sessionId txHash .running), some ⟨_, _, _, _, _, some _⟩ =>
          -- Only the file is looked at, not the exit.
          match s.files (env.resolve (env.proofOutput sessionId)) with
          | some _ => some (s.goOn rid (.proving sessionId txHash .found))
          | none => some (s.ends rid (.event "error" "Proof generation failed"))
      | _, _ => none
  | .recordProof rid metadataLen =>
      match s.requests rid with
      | some (.proving sessionId txHash .found) =>
          let proofOutput := env.proofOutput sessionId
          let s := s.updateSessionWith sessionId fun session =>
            { session with proofFile := some proofOutput }
          let s := { s with reports := s.reports ++ [Report.mk rid sessionId txHash] }
          some (s.ends rid (.event "complete" (env.serde.toString (.obj [
            ("proof_size", .num (metadataLen.toOption.getD 0).toNat),
            ("proof_file", .str proofOutput)]))))
      | _ => none
  -- `run-virtual-os.sh`
  | .writeProof rid text whole =>
      match s.scripts rid with
      | some script =>
          if script.exit = none then
            let s := s.write (env.resolve (env.proofOutput script.sessionId))
              ⟨text, if whole then some (.invoke script.txHash) else none⟩
            some (s.updateScript rid { script with wroteProof := whole })
          else none
      | none => none
  | .writeFacts rid text whole =>
      match s.scripts rid with
      | some script =>
          if script.exit = none then
            let s := s.write (env.resolve (factsOutput (env.proofOutput script.sessionId)))
              ⟨text, if whole then some (.invoke script.txHash) else none⟩
            some (s.updateScript rid { script with wroteFacts := whole })
          else none
      | none => none
  | .exited rid success =>
      match s.scripts rid with
      | some script =>
          if script.exit = none then
            some (s.updateScript rid { script with exit := some success })
          else none
      | none => none
  -- `prove_block`
  | .proveBlock rid sessionId params =>
      match Streams.proveBlock (s.sessions sessionId).referenced sessionId params with
      | .ok job => (s.say rid (.answer .stream)).arrive rid (.provingBlock job .proving)
      | .error e => s.reject rid e
  | .blockWrites rid facts text whole =>
      match s.requests rid with
      | some (.provingBlock job .proving) =>
          let proofPath := env.proofOutput job.sessionId
          some (s.write (env.resolve (if facts then factsOutput proofPath else proofPath))
            ⟨text, if whole then some (.block job) else none⟩)
      | _ => none
  | .blockProved rid outcome =>
      match s.requests rid, outcome with
      | some (.provingBlock job .proving), .ok () =>
          some (s.goOn rid (.provingBlock job .submitting))
      | some (.provingBlock _ .proving), .error e => some (s.ends rid (.event "error" e))
      | _, _ => none
  | .blockSubmitted rid outcome =>
      match s.requests rid, outcome with
      | some (.provingBlock job .submitting), .ok () =>
          some (s.goOn rid (.provingBlock job .verifying))
      | some (.provingBlock _ .submitting), .error e => some (s.ends rid (.event "error" e))
      | _, _ => none
  | .blockConfirmed rid reply =>
      match s.requests rid, reply with
      | some (.provingBlock job .verifying), .ok receipt =>
          let block := (receiptBlockNumber receipt).getD 0
          let before := (s.sessions job.sessionId).lastReferenceBlock
          let s := s.updateSessionWith job.sessionId fun session =>
            { session with lastReferenceBlock := some block }
          let s := { s with landings := s.landings ++ [Landing.mk job.sessionId before block] }
          some (s.ends rid (.event "log" ("Tx included in block " ++ toString block.toNat)))
      | some (.provingBlock _ .verifying), .error e =>
          some (s.ends rid (.event "error" ("Tx not confirmed: " ++ e.toString)))
      | _, _ => none
  -- `submit_proof`
  | .submit rid sessionId =>
      match submitProof env s.files (s.sessions sessionId) with
      | .ok read => s.arrive rid (.readingProof sessionId read.1 read.2)
      | .error e => s.reject rid e
  | .readProof rid error =>
      match s.requests rid, error with
      | some (.readingProof sessionId proofFile contractAddress), none =>
          match s.files (env.resolve proofFile) with
          | some proof =>
              some (s.goOn rid (.readingFacts sessionId proofFile contractAddress proof))
          | none => none
      | some (.readingProof _ _ _), some e =>
          some (s.ends rid (.answer (.error
            ⟨.internalServerError, "Failed to read proof file: " ++ e⟩)))
      | _, _ => none
  | .readFacts rid error =>
      match s.requests rid, error with
      | some (.readingFacts sessionId proofFile contractAddress proof), none =>
          match s.files (env.resolve (proofFactsFile proofFile)) with
          | some facts =>
              match submitParams env contractAddress proof.text facts.text with
              | .ok params =>
                  some (s.goOn rid (.signing sessionId contractAddress proof facts params))
              | .error e => some (s.ends rid (.answer (.error e)))
          | none => none
      | some (.readingFacts _ _ _ _), some e =>
          some (s.ends rid (.answer (.error
            ⟨.internalServerError, "Failed to read proof_facts file: " ++ e⟩)))
      | _, _ => none
  | .nonce rid reply =>
      match s.requests rid, reply with
      | some (.signing sessionId contractAddress proof facts params), .ok n =>
          match Core.signAndBuildPayload env.sc (params (Felt.ofNat n.toNat)) with
          | .ok built =>
              let s := { s with
                payloads := s.payloads ++ [Payload.mk contractAddress proof facts built.2] }
              some (s.goOn rid (.submitting sessionId built.1))
          | .error e => some (s.ends rid (.answer (.error ⟨.internalServerError, e.toString⟩)))
      | some (.signing _ _ _ _ _), .error e =>
          some (s.ends rid (.answer (.error ⟨.internalServerError, e.toString⟩)))
      | _, _ => none
  | .sent rid reply =>
      match s.requests rid, reply with
      | some (.submitting _ localTxHash), .ok txHash =>
          some (s.ends rid (.answer (.submitted ⟨txHash, fmtFelt localTxHash,
            "\x7b\"transaction_hash\":\"" ++ txHash ++ "\"\x7d"⟩)))
      | some (.submitting _ _), .error e =>
          some (s.ends rid (.answer (.error
            ⟨.badGateway, "RPC submission failed: " ++ e.toString⟩)))
      | _, _ => none
  -- The client goes away.
  | .cancel rid =>
      match s.requests rid with
      | some r =>
          if r.cancellable then
            some { s with requests := Function.update s.requests rid none }
          else none
      | none => none

/-! ### A sample -/

/-- A receipt of a transaction in a block. -/
def receiptIn (block : ℕ) : Json :=
  .obj [
    ("execution_status", .str "SUCCEEDED"),
    ("finality_status", .str "ACCEPTED_ON_L2"),
    ("block_number", .num block)]

/-- A node's reply to an accepted transaction. -/
def acceptedAs (txHash : String) : Json :=
  .obj [("jsonrpc", .str "2.0"), ("result", .obj [("transaction_hash", .str txHash)]),
    ("id", .num 1)]

/-- A server whose prover writes the facts `["0x1"]`. -/
def sampleEnv : Env where
  fh := sampleHex
  sc := sampleCrypto
  serde := {
    toString := Json.compact
    toStringPretty := Json.compact
    fromStr := fun _ => .error "expected value at line 1 column 1"
    stringsFromStr := fun text =>
      if text = "[\"0x1\"]" then .ok ["0x1"] else .error "expected value at line 1 column 1" }
  config := ⟨"http://localhost:5050", "0x1", "0x2", "SN_SEPOLIA", none, "output"⟩
  join := fun dir name => dir ++ "/" ++ name
  resolve := id

/-- An account and a counter are deployed. -/
def sampleDeployed : List Event := [
  .deployAccount 0 "a",
  .accountDeployed 0 (.ok ⟨"0xa", "0xa1", receiptIn 2⟩),
  .deployCounter 1 "a",
  .counterDeployed 1 (.ok ⟨"0x10", "0x11", "0x12", receiptIn 3⟩)]

/-- An increment. -/
def sampleInvoke : InvokeRequest where
  sessionId := "a"
  signatureR := "0x7"
  signatureS := "0x8"
  nonce := 0

/-- An increment is proved. -/
def firstProof : List Event := sampleDeployed ++ [
  .invoke 2 sampleInvoke,
  .submitted 2 (.ok (acceptedAs "0x31")),
  .confirmed 2 (.ok (receiptIn 5)),
  .prove 3 "a",
  .readInvokeBlock 3,
  .storeProveBlock 3,
  .spawned 3 (.ok ()),
  .writeProof 3 "AQID\n" true,
  .writeFacts 3 "[\"0x1\"]" true,
  .exited 3 true,
  .checkProof 3,
  .recordProof 3 (.ok 5)]

end Snip36.Playground
