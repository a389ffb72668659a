import Snip36.Playground.Handlers
import Snip36.Support.Ledger
import Snip36.Support.Runs

/-!
# Nonces — the server

`play_coinflip`, `prove_block` and `submit_proof` sign for one account.  Each run reads a nonce
from the node, signs with it, and submits: the first two read it at their reference block before
they have the transaction proved, the third in the pre-confirmed state, or in the latest one when
that read fails, before it signs.  Nothing reserves a nonce.

The chain is a ledger of the account's transactions: one of this server stands at its nonce
(`Account`).  Runs, the network and the chain take steps in any order (`step`).
-/

namespace Snip36.Nonces
open Support Signing CoinFlip Streams Playground

/-! ### Transactions -/

/-- A transaction with a proof, as `sign_and_build_payload` returns it. -/
structure ProofTx (sc : StarknetCrypto) where
  params : SubmitParams
  txHash : Felt
  invokeTx : Json
  signed : Core.signAndBuildPayload sc params = .ok (txHash, invokeTx)

/-- A transaction of the account: one of this server, or another. -/
inductive Entry (sc : StarknetCrypto) where
  | own (tx : ProofTx sc)
  | other

/-- The nonce of a transaction of this server. -/
def Entry.nonce? {sc : StarknetCrypto} : Entry sc → Option ℕ
  | .own tx => some tx.params.nonce.val
  | .other => none

/-- The blocks of the chain and the pre-confirmed block, as far as they are the account's. -/
abbrev Account (sc : StarknetCrypto) := Ledger (Entry.nonce? : Entry sc → Option ℕ)

/-- The `block_id` with which a nonce is read. -/
inductive BlockId where
  | blockNumber (number : BitVec 64)
  | preConfirmed
  | latest

/-- The account's transactions in the state that a `block_id` names. -/
def BlockId.state? {sc : StarknetCrypto} (account : Account sc) : BlockId → Option (List (Entry sc))
  | .blockNumber number => account.upTo? number.toNat
  | .preConfirmed => some account.all
  | .latest => some account.closed

/-- `get_nonce_at_block`, of the account's transactions in a state: how many there are, when that
is an unsigned integer of 64 bits. -/
def getNonceAtBlock {sc : StarknetCrypto} (state : List (Entry sc)) : Option (BitVec 64) :=
  if state.length < 2 ^ 64 then some (BitVec.ofNat 64 state.length) else none

/-- A read of the nonce that the node has answered, at a time of the chain. -/
structure NonceRead (sc : StarknetCrypto) where
  blockId : BlockId
  account : Account sc
  state : List (Entry sc)
  nonce : BitVec 64
  state_eq : blockId.state? account = some state
  nonce_eq : getNonceAtBlock state = some nonce

/-- The node's answer to a read of the nonce. -/
def readNonce {sc : StarknetCrypto} (account : Account sc) (blockId : BlockId) :
    Option (NonceRead sc) :=
  match hstate : blockId.state? account with
  | some state =>
      match hnonce : getNonceAtBlock state with
      | some nonce => some ⟨blockId, account, state, nonce, hstate, hnonce⟩
      | none => none
  | none => none

/-! ### Runs -/

/-- What a play or a prove-block has parsed before it reads the nonce. -/
structure Construction where
  senderAddress : Felt
  privateKey : Felt
  calldata : List Felt
  chainId : Felt
  /-- The bounds of the transaction that is proved. -/
  resourceBounds : ResourceBounds
  referenceBlock : BitVec 64

/-- The texts of the config and of the calldata, as felts. -/
def construct (env : Env) (calldataFelts : Except String (List Felt)) (invalidSender : String)
    (resourceBounds : ResourceBounds) (referenceBlock : BitVec 64) :
    Except String Construction := do
  let calldata ← calldataFelts.mapError fun e => "Failed to parse calldata: " ++ e
  let senderAddress ← (feltFromHex env.fh env.config.accountAddress).mapError
    fun e => invalidSender ++ e
  let privateKey ← (feltFromHex env.fh env.config.privateKey).mapError
    fun e => "Invalid private key: " ++ e
  let chainId ← env.config.chainIdFelt.mapError fun e => "Invalid chain_id: " ++ e
  pure { senderAddress, privateKey, calldata, chainId, resourceBounds, referenceBlock }

/-- The task of `play_coinflip`, up to the read of the nonce. -/
def playCoinflip (env : Env) (game : Game) : Except String Construction :=
  construct env (game.calldataFelts env.fh) "Invalid sender address: " .zeroFee game.seedBlock

/-- The task of `prove_block`, up to the read of the nonce. -/
def proveBlock (env : Env) (job : ProveJob) : Except String Construction :=
  construct env (job.calldataStrs.mapM (feltFromHex env.fh)) "Invalid account address: " .default
    job.referenceBlock

/-- The hash of the transaction that is proved. -/
def Construction.standardTxHash (c : Construction) (sc : StarknetCrypto) (nonce : BitVec 64) :
    Felt :=
  Streams.standardTxHash sc c.senderAddress c.calldata c.chainId (Felt.ofNat nonce.toNat)
    c.resourceBounds

/-- The parameters of the transaction that is submitted. -/
def Construction.submitParams (c : Construction) (nonce : BitVec 64) (proofBase64 : String)
    (proofFacts : List Felt) : SubmitParams where
  senderAddress := c.senderAddress
  privateKey := c.privateKey
  calldata := c.calldata
  proofBase64
  proofFacts
  nonce := Felt.ofNat nonce.toNat
  chainId := c.chainId
  resourceBounds := .default

/-- How far a run has come. -/
inductive Phase (sc : StarknetCrypto) where
  /-- It waits for the nonce at its reference block. -/
  | constructing (c : Construction)
  /-- It has signed the transaction to prove, and waits for the proof. -/
  | proving (c : Construction) (read : NonceRead sc)
  /-- A `submit_proof` that waits for the pre-confirmed nonce. -/
  | reading (params : Felt → SubmitParams)
  /-- The same, for the latest nonce. -/
  | readingLatest (params : Felt → SubmitParams)
  /-- A `submit_proof` that has read the nonce. -/
  | signing (params : Felt → SubmitParams) (read : NonceRead sc)
  /-- It sends its transaction. -/
  | submitting (tx : ProofTx sc)

/-- A transaction that a run has signed, with the read of its nonce. -/
structure Production (sc : StarknetCrypto) where
  tx : ProofTx sc
  /-- The reference block of the run, when it is a play or a prove-block. -/
  referenceBlock : Option (BitVec 64)
  read : NonceRead sc
  /-- The chain and the pending transactions, when the transaction was signed. -/
  account : Account sc
  mempool : List (ProofTx sc)

/-- A transaction is pending or included when another one is signed. -/
def Production.Live {sc : StarknetCrypto} (p : Production sc) (tx : ProofTx sc) : Prop :=
  tx ∈ p.mempool ∨ .own tx ∈ p.account.all

/-- The server, the chain and the network. -/
structure Server (sc : StarknetCrypto) where
  account : Account sc
  /-- The transactions that were received and are not included. -/
  mempool : List (ProofTx sc)
  runs : ℕ → Option (Phase sc)
  /-- The transactions that were signed, in their order. -/
  produced : List (Production sc)

/-- A server on a chain, before its first run. -/
def Server.new {sc : StarknetCrypto} (account : Account sc) : Server sc where
  account := account
  mempool := []
  runs := fun _ => none
  produced := []

namespace Server

variable {sc : StarknetCrypto}

/-- A run is in a phase. -/
def enter (s : Server sc) (rid : ℕ) (phase : Phase sc) : Server sc :=
  { s with runs := Function.update s.runs rid (some phase) }

/-- A run is over. -/
def leave (s : Server sc) (rid : ℕ) : Server sc :=
  { s with runs := Function.update s.runs rid none }

/-- A run starts, or ends with an error at once. -/
def start {κ : Type} (s : Server sc) (rid : ℕ) (phase : Except κ (Phase sc)) :
    Option (Server sc) :=
  match s.runs rid with
  | none =>
      match phase with
      | .ok phase => some (s.enter rid phase)
      | .error _ => some s
  | some _ => none

/-- A run signs, or ends with an error. -/
def signAndSubmit (s : Server sc) (rid : ℕ) (params : SubmitParams)
    (referenceBlock : Option (BitVec 64)) (read : NonceRead sc) : Server sc :=
  match h : Core.signAndBuildPayload sc params with
  | .ok (txHash, invokeTx) =>
      let tx : ProofTx sc := ⟨params, txHash, invokeTx, h⟩
      { s.enter rid (.submitting tx) with
        produced := s.produced ++ [⟨tx, referenceBlock, read, s.account, s.mempool⟩] }
  | .error _ => s.leave rid

end Server

/-! ### Steps -/

/-- What happens next. -/
inductive Event where
  /-- A game is revealed, and its task starts. -/
  | playCoinflip (rid : ℕ) (game : Game)
  /-- The task of a block starts. -/
  | proveBlock (rid : ℕ) (job : ProveJob)
  /-- A `submit_proof` has read its files. -/
  | submitProof (rid : ℕ) (contractAddress proof proofFactsJson : String)
  /-- The node answers the read of a nonce. -/
  | nonceRead (rid : ℕ)
  /-- The read of a nonce fails. -/
  | nonceFailed (rid : ℕ)
  /-- The proof is made and read, and the transaction signed. -/
  | proved (rid : ℕ) (proofBase64 : String) (proofFacts : List Felt)
  /-- A `submit_proof` signs. -/
  | signed (rid : ℕ)
  /-- The network receives the transaction that a run sends. -/
  | received (rid : ℕ)
  /-- A run ends, whether with an error or not. -/
  | ended (rid : ℕ)
  /-- A pending transaction comes into the pre-confirmed block. -/
  | included (i : ℕ)
  /-- A pending transaction is dropped. -/
  | dropped (i : ℕ)
  /-- Another transaction of the account comes into the pre-confirmed block. -/
  | otherIncluded
  /-- The pre-confirmed block becomes the latest one. -/
  | blockClosed

/-- The state after an event. -/
def step (env : Env) (s : Server env.sc) : Event → Option (Server env.sc)
  | .playCoinflip rid game => s.start rid ((Nonces.playCoinflip env game).map .constructing)
  | .proveBlock rid job => s.start rid ((Nonces.proveBlock env job).map .constructing)
  | .submitProof rid contractAddress proof proofFactsJson =>
      s.start rid ((submitParams env contractAddress proof proofFactsJson).map .reading)
  | .nonceRead rid =>
      match s.runs rid with
      | some (.constructing c) => do
          let read ← readNonce s.account (.blockNumber c.referenceBlock)
          match sign env.sc c.privateKey (c.standardTxHash env.sc read.nonce) with
          | .ok _ => some (s.enter rid (.proving c read))
          | .error _ => some (s.leave rid)
      | some (.reading params) => do
          let read ← readNonce s.account .preConfirmed
          some (s.enter rid (.signing params read))
      | some (.readingLatest params) => do
          let read ← readNonce s.account .latest
          some (s.enter rid (.signing params read))
      | _ => none
  | .nonceFailed rid =>
      match s.runs rid with
      | some (.constructing _) => some (s.leave rid)
      | some (.reading params) => some (s.enter rid (.readingLatest params))
      | some (.readingLatest _) => some (s.leave rid)
      | _ => none
  | .proved rid proofBase64 proofFacts =>
      match s.runs rid with
      | some (.proving c read) =>
          some (s.signAndSubmit rid (c.submitParams read.nonce proofBase64 proofFacts)
            (some c.referenceBlock) read)
      | _ => none
  | .signed rid =>
      match s.runs rid with
      | some (.signing params read) =>
          some (s.signAndSubmit rid (params (Felt.ofNat read.nonce.toNat)) none read)
      | _ => none
  | .received rid =>
      match s.runs rid with
      | some (.submitting tx) => some { s with mempool := s.mempool ++ [tx] }
      | _ => none
  | .ended rid =>
      match s.runs rid with
      | some _ => some (s.leave rid)
      | none => none
  | .included i =>
      match s.mempool[i]? with
      | some tx =>
          if h : s.account.Fits (.own tx) then
            some { s with account := s.account.append (.own tx) h, mempool := s.mempool.eraseIdx i }
          else none
      | none => none
  | .dropped i => some { s with mempool := s.mempool.eraseIdx i }
  | .otherIncluded =>
      if h : s.account.Fits .other then
        some { s with account := s.account.append .other h }
      else none
  | .blockClosed => some { s with account := s.account.closeBlock }

/-! ### What is claimed of nonces -/

/-- No transaction is signed with the sender and the nonce of a different one that is pending or
included. -/
def NeverTwice {sc : StarknetCrypto} (s : Server sc) : Prop :=
  ∀ p ∈ s.produced, ∀ tx, p.Live tx → tx.params.senderAddress = p.tx.params.senderAddress →
    tx.params.nonce = p.tx.params.nonce → tx.txHash = p.tx.txHash

end Snip36.Nonces
