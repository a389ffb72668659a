import Snip36.Running.VirtualBlock
import Snip36.Support.Hex

/-!
# Running — prefetched state

A simulation of the transactions tells which state they read first.  Its `initial_reads` are
decoded into state maps (`serde_utils.rs`), and a `SimulatedStateReader` answers from them what
it can and asks the node for the rest.

`answer_simulated`: when every decoded entry is what the node answers, every read is answered as
the node answers it.  So a reader of state, whose next read may depend on all earlier answers,
gets the same answers in the same order with any part of the state prefetched (`transcript_congr`).
-/

namespace Snip36.Running
open Support

/-! ### State readers -/

/-- The types of the state's crates. -/
structure StateTypes where
  StateError : Type
  RunnableCompiledClass : Type
  CompiledClasses : Type

variable {T : StateTypes}

/-- `StateReader` with `FetchCompiledClasses`. -/
structure StateReader (T : StateTypes) where
  getStorageAt : ContractAddress → StorageKey → Except T.StateError Felt
  getNonceAt : ContractAddress → Except T.StateError Nonce
  getClassHashAt : ContractAddress → Except T.StateError ClassHash
  getCompiledClass : ClassHash → Except T.StateError T.RunnableCompiledClass
  getCompiledClassHash : ClassHash → Except T.StateError CompiledClassHash
  getCompiledClassHashV2 :
    ClassHash → T.RunnableCompiledClass → Except T.StateError CompiledClassHash
  getCompiledClasses : ClassHash → Except T.StateError T.CompiledClasses
  isDeclared : ClassHash → Except T.StateError Bool

/-- `SimulatedStateReader`. -/
structure SimulatedStateReader (T : StateTypes) where
  stateMaps : StateMaps
  rpcStateReader : StateReader T

/-- A prefetched value, or else the node's. -/
def prefetchedOr {κ ν ε : Type} [DecidableEq κ] (prefetched : IndexMap κ ν)
    (ask : κ → Except ε ν) (key : κ) : Except ε ν :=
  match prefetched.get key with
  | some value => .ok value
  | none => ask key

/-- `SimulatedStateReader` as a state reader. -/
def SimulatedStateReader.toStateReader (reader : SimulatedStateReader T) : StateReader T where
  getStorageAt contractAddress key :=
    prefetchedOr reader.stateMaps.storage
      (fun (contractAddress, key) => reader.rpcStateReader.getStorageAt contractAddress key)
      (contractAddress, key)
  getNonceAt := prefetchedOr reader.stateMaps.nonces reader.rpcStateReader.getNonceAt
  getClassHashAt := prefetchedOr reader.stateMaps.classHashes reader.rpcStateReader.getClassHashAt
  getCompiledClass := reader.rpcStateReader.getCompiledClass
  getCompiledClassHash := reader.rpcStateReader.getCompiledClassHash
  getCompiledClassHashV2 := reader.rpcStateReader.getCompiledClassHashV2
  getCompiledClasses := reader.rpcStateReader.getCompiledClasses
  isDeclared := prefetchedOr reader.stateMaps.declaredContracts reader.rpcStateReader.isDeclared

/-- A read of the state. -/
inductive StateRead (T : StateTypes) where
  | storageAt (contractAddress : ContractAddress) (key : StorageKey)
  | nonceAt (contractAddress : ContractAddress)
  | classHashAt (contractAddress : ContractAddress)
  | compiledClass (classHash : ClassHash)
  | compiledClassHash (classHash : ClassHash)
  | compiledClassHashV2 (classHash : ClassHash) (compiledClass : T.RunnableCompiledClass)
  | compiledClasses (classHash : ClassHash)
  | isDeclared (classHash : ClassHash)

/-- The answer to a read. -/
inductive StateAnswer (T : StateTypes) where
  | felt (answer : Except T.StateError Felt)
  | compiledClass (answer : Except T.StateError T.RunnableCompiledClass)
  | compiledClasses (answer : Except T.StateError T.CompiledClasses)
  | bool (answer : Except T.StateError Bool)

/-- The answer of a state reader. -/
def StateReader.answer (reader : StateReader T) : StateRead T → StateAnswer T
  | .storageAt contractAddress key => .felt (reader.getStorageAt contractAddress key)
  | .nonceAt contractAddress => .felt (reader.getNonceAt contractAddress)
  | .classHashAt contractAddress => .felt (reader.getClassHashAt contractAddress)
  | .compiledClass classHash => .compiledClass (reader.getCompiledClass classHash)
  | .compiledClassHash classHash => .felt (reader.getCompiledClassHash classHash)
  | .compiledClassHashV2 classHash compiledClass =>
      .felt (reader.getCompiledClassHashV2 classHash compiledClass)
  | .compiledClasses classHash => .compiledClasses (reader.getCompiledClasses classHash)
  | .isDeclared classHash => .bool (reader.isDeclared classHash)

/-! ### Adaptive reads -/

section Transcript

variable {ρ α : Type}

/-- The first `n` reads and their answers, when `next` chooses every read from the earlier reads
and answers. -/
def transcript (answer : ρ → α) (next : List (ρ × α) → ρ) : ℕ → List (ρ × α)
  | 0 => []
  | n + 1 =>
      let past := transcript answer next n
      let read := next past
      past ++ [(read, answer read)]

/-- Readers that agree on what is read have one transcript. -/
theorem transcript_congr {answer answer' : ρ → α} {next : List (ρ × α) → ρ} {n : ℕ}
    (h : ∀ read ∈ (transcript answer next n).map Prod.fst, answer' read = answer read) :
    transcript answer' next n = transcript answer next n := by
  induction n with
  | zero => rfl
  | succ n ih =>
      have hpast : transcript answer' next n = transcript answer next n :=
        ih fun read hread => h read (by
          rw [transcript, List.map_append]
          exact List.mem_append_left _ hread)
      have hread : answer' (next (transcript answer next n))
          = answer (next (transcript answer next n)) := h _ (by simp [transcript])
      rw [transcript, hpast, transcript, hread]

end Transcript

/-! ### `initial_reads` -/

/-- `StorageEntry`. -/
structure StorageEntry where
  contractAddress : ContractAddress
  key : StorageKey
  value : Felt

/-- `NonceEntry`. -/
structure NonceEntry where
  contractAddress : ContractAddress
  nonce : Nonce

/-- `ClassHashEntry`. -/
structure ClassHashEntry where
  contractAddress : ContractAddress
  classHash : ClassHash

/-- `DeclaredEntry`. -/
structure DeclaredEntry where
  classHash : ClassHash
  isDeclared : Bool

/-- `RpcInitialReads`. -/
structure RpcInitialReads where
  storage : List StorageEntry
  nonces : List NonceEntry
  classHashes : List ClassHashEntry
  declaredContracts : List DeclaredEntry

/-- The decoders of the entries' fields. -/
structure ReadsCodec where
  contractAddress : Json → Option ContractAddress
  storageKey : Json → Option StorageKey
  felt : Json → Option Felt
  nonce : Json → Option Nonce
  classHash : Json → Option ClassHash
  /-- The text of the error of a value that is not decoded. -/
  errorText : Json → String

/-- The fields of a derived `Deserialize`: an object has them by name, an array in order. -/
def structFields (names : List String) : Json → Option (List (Option Json))
  | .obj fields => some (names.map fun name => fields.lookup name)
  | .arr elems =>
      if elems.length ≤ names.length then some ((List.range names.length).map fun i => elems[i]?)
      else none
  | _ => none

/-- A field that is a list. -/
def listField {α : Type} (decode : Json → Option α) : Json → Option (List α)
  | .arr elems => elems.mapM decode
  | _ => none

/-- A field with `#[serde(default)]`. -/
def defaultedListField {α : Type} (decode : Json → Option α) :
    Option Json → Option (List α)
  | some v => listField decode v
  | none => some []

/-- A field that is a boolean. -/
def boolField : Json → Option Bool
  | .bool b => some b
  | _ => none

section Decoding

variable (codec : ReadsCodec)

/-- `StorageEntry::deserialize`. -/
def decodeStorageEntry (v : Json) : Option StorageEntry :=
  match structFields ["contract_address", "key", "value"] v with
  | some [some contractAddress, some key, some value] => do
      let contractAddress ← codec.contractAddress contractAddress
      let key ← codec.storageKey key
      let value ← codec.felt value
      pure { contractAddress, key, value }
  | _ => none

/-- `NonceEntry::deserialize`. -/
def decodeNonceEntry (v : Json) : Option NonceEntry :=
  match structFields ["contract_address", "nonce"] v with
  | some [some contractAddress, some nonce] => do
      let contractAddress ← codec.contractAddress contractAddress
      let nonce ← codec.nonce nonce
      pure { contractAddress, nonce }
  | _ => none

/-- `ClassHashEntry::deserialize`. -/
def decodeClassHashEntry (v : Json) : Option ClassHashEntry :=
  match structFields ["contract_address", "class_hash"] v with
  | some [some contractAddress, some classHash] => do
      let contractAddress ← codec.contractAddress contractAddress
      let classHash ← codec.classHash classHash
      pure { contractAddress, classHash }
  | _ => none

/-- `DeclaredEntry::deserialize`. -/
def decodeDeclaredEntry (v : Json) : Option DeclaredEntry :=
  match structFields ["class_hash", "is_declared"] v with
  | some [some classHash, some isDeclared] => do
      let classHash ← codec.classHash classHash
      let isDeclared ← boolField isDeclared
      pure { classHash, isDeclared }
  | _ => none

/-- `RpcInitialReads::deserialize`. -/
def decodeRpcInitialReads (v : Json) : Option RpcInitialReads :=
  match structFields ["storage", "nonces", "class_hashes", "declared_contracts"] v with
  | some [storage, nonces, classHashes, declaredContracts] => do
      let storage ← defaultedListField (decodeStorageEntry codec) storage
      let nonces ← defaultedListField (decodeNonceEntry codec) nonces
      let classHashes ← defaultedListField (decodeClassHashEntry codec) classHashes
      let declaredContracts ← defaultedListField (decodeDeclaredEntry codec) declaredContracts
      pure { storage, nonces, classHashes, declaredContracts }
  | _ => none

/-- `StateMaps::from`. -/
def RpcInitialReads.toStateMaps (r : RpcInitialReads) : StateMaps where
  storage := StateMaps.default.storage.extend
    (r.storage.map fun e => ((e.contractAddress, e.key), e.value))
  nonces := StateMaps.default.nonces.extend (r.nonces.map fun e => (e.contractAddress, e.nonce))
  classHashes := StateMaps.default.classHashes.extend
    (r.classHashes.map fun e => (e.contractAddress, e.classHash))
  declaredContracts := StateMaps.default.declaredContracts.extend
    (r.declaredContracts.map fun e => (e.classHash, e.isDeclared))
  compiledClassHashes := StateMaps.default.compiledClassHashes

/-- `deserialize_rpc_initial_reads`. -/
def deserializeRpcInitialReads (value : Json) : Except String StateMaps :=
  (okOr (decodeRpcInitialReads codec value) (codec.errorText value)).map
    RpcInitialReads.toStateMaps

end Decoding

/-! ### The reader of an executor -/

/-- `RpcVirtualBlockExecutor`, with the conversion of its transactions and its requests. -/
structure RpcVirtualBlockExecutor (T : StateTypes) (Tx : Type) where
  rpcStateReader : StateReader T
  validateTxs : Bool
  prefetchState : Bool
  /-- `RpcTransaction::Invoke`, of an invoke transaction. -/
  toRpcTransaction : Tx → Except String Json
  sendRpcRequest : String → Json → Except String Json
  codec : ReadsCodec

namespace RpcVirtualBlockExecutor

variable {Tx TransactionHash : Type} (v : RpcVirtualBlockExecutor T Tx)

/-- `simulation_flags`. -/
def simulationFlags : List String :=
  ["RETURN_INITIAL_READS"] ++ (if v.validateTxs then [] else ["SKIP_VALIDATE"])
    ++ ["SKIP_FEE_CHARGE"]

/-- `simulate_and_get_initial_reads`. -/
def simulateAndGetInitialReads (blockId : Json) (txs : List (Tx × TransactionHash)) :
    Except (VirtualBlockExecutorError TransactionHash) StateMaps := do
  let rpcTxs ← txs.mapM fun (tx, _) =>
    (v.toRpcTransaction tx).mapError .transactionExecutionError
  let params := .obj [
    ("block_id", blockId),
    ("transactions", .arr rpcTxs),
    ("simulation_flags", .arr (v.simulationFlags.map .str))]
  let result ← (v.sendRpcRequest "starknet_simulateTransactions" params).mapError .reexecutionError
  let initialReadsValue ← okOr (result.field "initial_reads") (.transactionExecutionError
    ("simulateTransactions response missing initial_reads (ensure RETURN_INITIAL_READS "
      ++ "and v0.10 endpoint)"))
  (deserializeRpcInitialReads v.codec initialReadsValue).mapError fun e =>
    .transactionExecutionError ("Failed to deserialize initial_reads: " ++ e)

/-- `state_reader`. -/
def stateReader (blockId : Json) (txs : List (Tx × TransactionHash)) :
    Except (VirtualBlockExecutorError TransactionHash) (StateReader T) :=
  if v.prefetchState then do
    let stateMaps ← v.simulateAndGetInitialReads blockId txs
    pure (SimulatedStateReader.mk stateMaps v.rpcStateReader).toStateReader
  else .ok v.rpcStateReader

end RpcVirtualBlockExecutor

/-! ### Prefetched answers are the node's -/

/-- Every entry is what the node answers. -/
structure AnswersMatch (node : StateReader T) (reads : RpcInitialReads) : Prop where
  storage : ∀ e ∈ reads.storage, node.getStorageAt e.contractAddress e.key = .ok e.value
  nonces : ∀ e ∈ reads.nonces, node.getNonceAt e.contractAddress = .ok e.nonce
  classHashes : ∀ e ∈ reads.classHashes, node.getClassHashAt e.contractAddress = .ok e.classHash
  declaredContracts : ∀ e ∈ reads.declaredContracts,
    node.isDeclared e.classHash = .ok e.isDeclared

/-- A map of correct values answers as the node does. -/
theorem prefetchedOr_ofList {κ ν ε α : Type} [DecidableEq κ] {ask : κ → Except ε ν}
    {entry : α → κ × ν} {entries : List α}
    (h : ∀ e ∈ entries, ask (entry e).1 = .ok (entry e).2) (key : κ) :
    prefetchedOr (IndexMap.empty.extend (entries.map entry)) ask key = ask key := by
  rw [prefetchedOr]
  cases hget : (IndexMap.empty.extend (entries.map entry)).get key with
  | none => rfl
  | some value =>
      obtain ⟨e, he, heq⟩ := List.mem_map.mp (IndexMap.mem_of_get_ofList hget)
      have hask := h e he
      rw [heq] at hask
      exact hask.symm

/-- **A simulated reader answers as the node does**, whatever is prefetched. -/
theorem answer_simulated {node : StateReader T} {reads : RpcInitialReads}
    (h : AnswersMatch node reads) (read : StateRead T) :
    (SimulatedStateReader.mk reads.toStateMaps node).toStateReader.answer read
      = node.answer read := by
  cases read with
  | storageAt contractAddress key =>
      have hstorage : prefetchedOr reads.toStateMaps.storage
          (fun p : ContractAddress × StorageKey => node.getStorageAt p.1 p.2) (contractAddress, key)
          = node.getStorageAt contractAddress key := prefetchedOr_ofList h.storage _
      exact congrArg StateAnswer.felt hstorage
  | nonceAt contractAddress =>
      exact congrArg StateAnswer.felt (prefetchedOr_ofList h.nonces contractAddress)
  | classHashAt contractAddress =>
      exact congrArg StateAnswer.felt (prefetchedOr_ofList h.classHashes contractAddress)
  | isDeclared classHash =>
      exact congrArg StateAnswer.bool (prefetchedOr_ofList h.declaredContracts classHash)
  | compiledClass classHash => rfl
  | compiledClassHash classHash => rfl
  | compiledClassHashV2 classHash compiledClass => rfl
  | compiledClasses classHash => rfl

theorem deserializeRpcInitialReads_eq_ok {codec : ReadsCodec} {value : Json}
    {stateMaps : StateMaps} (h : deserializeRpcInitialReads codec value = .ok stateMaps) :
    ∃ reads, decodeRpcInitialReads codec value = some reads ∧ reads.toStateMaps = stateMaps := by
  obtain ⟨reads, hreads, rfl⟩ := map_eq_ok.mp h
  exact ⟨reads, okOr_eq_ok.mp hreads, rfl⟩

/-- **The reader of an executor answers as the node does**, with or without prefetching. -/
theorem answer_stateReader {Tx TransactionHash : Type} {v : RpcVirtualBlockExecutor T Tx}
    {blockId : Json} {txs : List (Tx × TransactionHash)} {reader : StateReader T}
    (h : v.stateReader blockId txs = .ok reader)
    (hmatch : ∀ params result value reads,
      v.sendRpcRequest "starknet_simulateTransactions" params = .ok result →
      result.field "initial_reads" = some value →
      decodeRpcInitialReads v.codec value = some reads → AnswersMatch v.rpcStateReader reads)
    (read : StateRead T) : reader.answer read = v.rpcStateReader.answer read := by
  rw [RpcVirtualBlockExecutor.stateReader] at h
  by_cases hp : v.prefetchState = true
  · rw [if_pos hp] at h
    obtain ⟨stateMaps, hmaps, h⟩ := bind_eq_ok.mp h
    obtain rfl := pure_eq_ok.mp h
    obtain ⟨rpcTxs, -, hmaps⟩ := bind_eq_ok.mp hmaps
    obtain ⟨result, hresult, hmaps⟩ := bind_eq_ok.mp hmaps
    obtain ⟨value, hvalue, hmaps⟩ := bind_eq_ok.mp hmaps
    obtain ⟨reads, hreads, rfl⟩ := deserializeRpcInitialReads_eq_ok (mapError_eq_ok.mp hmaps)
    exact answer_simulated
      (hmatch _ result value reads (mapError_eq_ok.mp hresult) (okOr_eq_ok.mp hvalue) hreads) read
  · rw [if_neg hp] at h
    rw [Except.ok.inj h]

/-- **Prefetching changes no answer of an adaptive sequence of reads.** -/
theorem prefetched_transcript_eq {codec : ReadsCodec} {node : StateReader T} {initialReads : Json}
    {stateMaps : StateMaps}
    (hdecoded : deserializeRpcInitialReads codec initialReads = .ok stateMaps)
    (hmatch : ∀ reads, decodeRpcInitialReads codec initialReads = some reads →
      AnswersMatch node reads)
    (next : List (StateRead T × StateAnswer T) → StateRead T) (n : ℕ) :
    transcript (SimulatedStateReader.mk stateMaps node).toStateReader.answer next n
      = transcript node.answer next n := by
  obtain ⟨reads, hreads, rfl⟩ := deserializeRpcInitialReads_eq_ok hdecoded
  exact transcript_congr fun read _ => answer_simulated (hmatch reads hreads) read

/-! ### Prefetching one storage value and one nonce -/

/-- A felt of a hexadecimal text. -/
def feltOfText (v : Json) : Option Felt := (v.text.bind hexNat?).map Felt.ofNat

/-- A key of a hexadecimal text. -/
def keyOfText (v : Json) : Option PatriciaKey :=
  (feltOfText v).bind fun f => (PatriciaKey.tryFrom f).toOption

/-- Fields that are hexadecimal texts. -/
def textCodec : ReadsCodec where
  contractAddress := keyOfText
  storageKey := keyOfText
  felt := feltOfText
  nonce := feltOfText
  classHash := feltOfText
  errorText _ := "invalid initial reads"

/-- The types of a state without classes. -/
abbrev noClasses : StateTypes := ⟨String, Empty, Empty⟩

/-- A node at a block where every contract has the nonce `5` and stores its address everywhere. -/
def plainNode : StateReader noClasses where
  getStorageAt contractAddress _ := .ok contractAddress.key
  getNonceAt _ := .ok 5
  getClassHashAt _ := .ok 7
  getCompiledClass _ := .error "no classes"
  getCompiledClassHash _ := .error "no classes"
  getCompiledClassHashV2 _ _ := .error "no classes"
  getCompiledClasses _ := .error "no classes"
  isDeclared _ := .ok false

/-- Two of the four lists. -/
def twoLists : Json := .obj [
  ("nonces", .arr [.obj [("nonce", .str "0x5"), ("contract_address", .str "0xAB")]]),
  ("storage", .arr [.obj [
    ("contract_address", .str "0xab"), ("key", .str "0x10"), ("value", .str "0xab")]])]

theorem decode_twoLists :
    decodeRpcInitialReads textCodec twoLists = some {
      storage := [⟨.ofByte 171, .ofByte 16, 171⟩]
      nonces := [⟨.ofByte 171, 5⟩]
      classHashes := []
      declaredContracts := [] } := by
  rfl

/-- Read the storage at `0xab`, and then the nonce of the address that it holds. -/
def followAddress (past : List (StateRead noClasses × StateAnswer noClasses)) :
    StateRead noClasses :=
  match past with
  | (_, .felt (.ok f)) :: _ => .nonceAt ((PatriciaKey.tryFrom f).toOption.getD (.ofByte 0))
  | _ => .storageAt (.ofByte 171) (.ofByte 16)

theorem prefetched_transcript_eq_twoLists :
    ∃ stateMaps, deserializeRpcInitialReads textCodec twoLists = .ok stateMaps ∧
      transcript (SimulatedStateReader.mk stateMaps plainNode).toStateReader.answer followAddress 2
        = transcript plainNode.answer followAddress 2 := by
  have hok : ∃ stateMaps, deserializeRpcInitialReads textCodec twoLists = .ok stateMaps := by
    rw [deserializeRpcInitialReads, decode_twoLists]
    exact ⟨_, rfl⟩
  obtain ⟨stateMaps, hdecoded⟩ := hok
  refine ⟨stateMaps, hdecoded, prefetched_transcript_eq hdecoded ?_ followAddress 2⟩
  intro reads hreads
  obtain rfl := Option.some.inj (decode_twoLists.symm.trans hreads)
  constructor <;> intro e he
  · obtain rfl := List.mem_singleton.mp he
    rfl
  · obtain rfl := List.mem_singleton.mp he
    rfl
  · cases he
  · cases he

end Snip36.Running
