import Snip36.Felt
import Snip36.Support.IndexMap

/-!
# Running — block ids, state maps and the data of an execution

`StateMaps` is what an execution reads or writes, map by map.  The addresses it touches are those
of its storage, nonce and class-hash entries (`StateMaps.Touches`); computing them is left to the
state cache (`StateCache`), a crate of its own.
-/

namespace Snip36.Running
open Support

/-- `BlockId`. -/
inductive BlockId where
  | hash (h : Felt)
  | number (n : ℕ)
  | latest
  | pending
  deriving DecidableEq

/-- `StateMaps`. -/
structure StateMaps where
  nonces : IndexMap ContractAddress Nonce
  classHashes : IndexMap ContractAddress ClassHash
  storage : IndexMap (ContractAddress × StorageKey) Felt
  compiledClassHashes : IndexMap ClassHash CompiledClassHash
  declaredContracts : IndexMap ClassHash Bool

namespace StateMaps

/-- `StateMaps::default()`. -/
def default : StateMaps := ⟨.empty, .empty, .empty, .empty, .empty⟩

/-- The contract address `a` occurs in the maps. -/
def Touches (m : StateMaps) (a : ContractAddress) : Prop :=
  (∃ k, (a, k) ∈ m.storage.keys) ∨ a ∈ m.nonces.keys ∨ a ∈ m.classHashes.keys

end StateMaps

/-- The functions of the state cache. -/
structure StateCache where
  StateChangesKeys : Type
  /-- `StateMaps::keys`. -/
  keys : StateMaps → StateChangesKeys
  /-- `StorageDiff::from`, the storage entries by address. -/
  storageDiff :
    IndexMap (ContractAddress × StorageKey) Felt →
      IndexMap ContractAddress (IndexMap StorageKey Felt)
  /-- `StateMaps::get_contract_addresses`, a set in some order. -/
  getContractAddresses : StateMaps → List ContractAddress
  nodup_getContractAddresses : ∀ m, (getContractAddresses m).Nodup
  mem_getContractAddresses : ∀ m a, a ∈ getContractAddresses m ↔ m.Touches a

/-- `VirtualBlockExecutionData`, over the executor's outputs, its messages and its base block. -/
structure VirtualBlockExecutionData (Output Message BaseBlockInfo : Type) where
  executionOutputs : List Output
  initialReads : StateMaps
  stateDiff : StateMaps
  /-- A set, in the order in which it is iterated. -/
  executedClassHashes : List ClassHash
  nodup_executedClassHashes : executedClassHashes.Nodup
  l2ToL1Messages : List Message
  baseBlockInfo : BaseBlockInfo

end Snip36.Running
