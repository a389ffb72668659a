import Snip36.Running.State
import Snip36.Support.Runs

/-!
# Proving — the block of a proving run

`prove_transaction` reads its block in five places: the header of the base block, the simulation
that prefetches the state, the reads that execution makes, the classes of the OS input and the
storage proofs.  Each request is sent with the block id of the reader it goes through, and the
node resolves `latest` when the request arrives, while new blocks are appended to the chain.  Only
the storage proofs are requested by the number of the header.

* `sameBlock_of_ne_latest`: a run that was given a number or a hash reads one block.
* `sameBlock_latest_iff`: a run that was given `latest` reads one block exactly when no block was
  appended between two requests with its block id.
-/

namespace Snip36.Proving
open Support Running

/-! ### The chain -/

/-- The hashes of the blocks of a chain, from the first one on. -/
structure Chain where
  blocks : List Felt
  nodup : blocks.Nodup
  ne_nil : blocks ≠ []

namespace Chain

/-- How many blocks there are. -/
def height (chain : Chain) : ℕ := chain.blocks.length

/-- Append a block. -/
def push (chain : Chain) (h : Felt) (fresh : h ∉ chain.blocks) : Chain where
  blocks := chain.blocks ++ [h]
  nodup := by
    rw [List.nodup_append_comm]
    exact List.nodup_cons.mpr ⟨fresh, chain.nodup⟩
  ne_nil := by simp

/-- The number of the block that a node takes an id for.  No request is sent with `pending`. -/
def resolve (chain : Chain) : BlockId → Option ℕ
  | .hash h => chain.blocks.idxOf? h
  | .number n => if n < chain.height then some n else none
  | .latest => some (chain.height - 1)
  | .pending => none

theorem height_pos (chain : Chain) : 0 < chain.height :=
  List.length_pos_of_ne_nil chain.ne_nil

@[simp] theorem height_push (chain : Chain) (h : Felt) (fresh : h ∉ chain.blocks) :
    (chain.push h fresh).height = chain.height + 1 := by
  simp [height, push]

/-- A block keeps its number when the chain grows. -/
theorem resolve_push {chain : Chain} {h : Felt} (fresh : h ∉ chain.blocks) {blockId : BlockId}
    (hb : blockId ≠ .latest) {n : ℕ} (hn : chain.resolve blockId = some n) :
    (chain.push h fresh).resolve blockId = some n := by
  cases blockId with
  | hash h' =>
      obtain ⟨hlt, heq, hbefore⟩ := List.idxOf?_eq_some_iff.mp hn
      refine List.idxOf?_eq_some_iff.mpr ⟨?_, ?_, ?_⟩
      · simp only [push, List.length_append]
        omega
      · simpa [push, List.getElem_append_left hlt] using heq
      · intro j hj
        simpa [push, List.getElem_append_left (hj.trans hlt)] using hbefore j hj
  | number m =>
      simp only [resolve] at hn ⊢
      rw [height_push]
      split at hn
      · rw [if_pos (by omega)]
        exact hn
      · cases hn
  | latest => exact absurd rfl hb
  | pending => cases hn

end Chain

/-! ### The runner -/

/-- `RpcStateReader`, by the block id its requests are sent with. -/
structure RpcStateReader where
  blockId : BlockId

/-- `RpcVirtualBlockExecutor`. -/
structure RpcVirtualBlockExecutor where
  rpcStateReader : RpcStateReader
  prefetchState : Bool

/-- `RpcRunner`. -/
structure RpcRunner where
  classesProvider : RpcStateReader
  virtualBlockExecutor : RpcVirtualBlockExecutor
  blockId : BlockId

/-- `create_runner`. -/
def createRunner (prefetchState : Bool) (blockId : BlockId) : RpcRunner where
  classesProvider := ⟨blockId⟩
  virtualBlockExecutor := ⟨⟨blockId⟩, prefetchState⟩
  blockId := blockId

/-- The check of `prove_transaction`, and the runner it goes on with. -/
def acceptBlockId (prefetchState : Bool) (blockId : BlockId) : Except String RpcRunner :=
  if blockId = .pending then
    .error "Pending blocks are not supported; only finalized blocks can be proven."
  else .ok (createRunner prefetchState blockId)

/-- What execution asks its state reader. -/
inductive StateRead where
  | storageAt (address : ContractAddress) (key : StorageKey)
  | nonceAt (address : ContractAddress)
  | classHashAt (address : ContractAddress)
  | isDeclared (classHash : ClassHash)
  | compiledClass (classHash : ClassHash)
  | compiledClassHash (classHash : ClassHash)
  | compiledClassHashV2 (classHash : ClassHash)
  | compiledClasses (classHash : ClassHash)

/-- The state reader of an execution.  The prefetched maps come with the block they were
simulated on. -/
inductive ExecutionReader where
  | rpc
  | simulated (stateMaps : StateMaps) (block : ℕ)

/-- The block of a read that `SimulatedStateReader` serves from its maps; any other read goes to
the node. -/
def ExecutionReader.served : ExecutionReader → StateRead → Option ℕ
  | .rpc, _ => none
  | .simulated stateMaps block, .storageAt address key =>
      (stateMaps.storage.get (address, key)).map fun _ => block
  | .simulated stateMaps block, .nonceAt address =>
      (stateMaps.nonces.get address).map fun _ => block
  | .simulated stateMaps block, .classHashAt address =>
      (stateMaps.classHashes.get address).map fun _ => block
  | .simulated stateMaps block, .isDeclared classHash =>
      (stateMaps.declaredContracts.get classHash).map fun _ => block
  | .simulated _ _, .compiledClass _ => none
  | .simulated _ _, .compiledClassHash _ => none
  | .simulated _ _, .compiledClassHashV2 _ => none
  | .simulated _ _, .compiledClasses _ => none

/-! ### The run -/

/-- How far a run has come, with what it has read so far. -/
inductive Phase where
  /-- Before `base_block_info`. -/
  | baseBlockInfo
  /-- Before `state_reader`, with the block number of the header. -/
  | stateReader (blockNumber : ℕ)
  /-- In `execute_txs`. -/
  | execution (blockNumber : ℕ) (reader : ExecutionReader)
  /-- In `create_virtual_os_hints`, where classes and storage proofs are fetched side by side. -/
  | hints (blockNumber : ℕ)
  /-- Done, well or with an error. -/
  | finished

/-- What a run reads. -/
inductive Datum where
  | header
  | initialReads
  | read (r : StateRead)
  | fetchedClass (classHash : ClassHash)
  | storageProof

/-- A datum and the number of the block it is about. -/
structure Use where
  datum : Datum
  block : ℕ

/-- The chain, and a run on top of it. -/
structure ProvingRun where
  chain : Chain
  phase : Phase
  used : List Use

/-- What can happen: a block is appended, or the run moves on. -/
inductive Event where
  | newBlock (hash : Felt)
  /-- `get_block_header`. -/
  | getBlockHeader
  /-- `simulate_and_get_initial_reads`, with the maps that the node answers. -/
  | simulate (stateMaps : StateMaps)
  /-- `state_reader` without prefetching. -/
  | skipSimulation
  /-- A read that the prefetched maps serve. -/
  | servedRead (r : StateRead)
  /-- A read that goes to the node. -/
  | rpcRead (r : StateRead)
  /-- `execute_txs` returns. -/
  | executed
  /-- `fetch_class`, at the node. -/
  | fetchClass (classHash : ClassHash)
  /-- `fetch_single_proof`. -/
  | fetchSingleProof
  /-- The run ends, well or with an error. -/
  | finish

/-- A request for `datum` that the node answers about the block of `blockId`; the run goes on in
`phase`, which may keep the block's number. -/
def ProvingRun.request (s : ProvingRun) (blockId : BlockId) (datum : Datum) (phase : ℕ → Phase) :
    Option ProvingRun :=
  (s.chain.resolve blockId).map fun block =>
    { s with phase := phase block, used := s.used ++ [⟨datum, block⟩] }

/-- One event. -/
def step (runner : RpcRunner) (s : ProvingRun) : Event → Option ProvingRun
  | .newBlock hash =>
      if fresh : hash ∉ s.chain.blocks then some { s with chain := s.chain.push hash fresh }
      else none
  | .getBlockHeader =>
      match s.phase with
      | .baseBlockInfo =>
          s.request runner.virtualBlockExecutor.rpcStateReader.blockId .header .stateReader
      | _ => none
  | .simulate stateMaps =>
      match s.phase, runner.virtualBlockExecutor.prefetchState with
      | .stateReader blockNumber, true =>
          s.request runner.blockId .initialReads fun block =>
            .execution blockNumber (.simulated stateMaps block)
      | _, _ => none
  | .skipSimulation =>
      match s.phase, runner.virtualBlockExecutor.prefetchState with
      | .stateReader blockNumber, false => some { s with phase := .execution blockNumber .rpc }
      | _, _ => none
  | .servedRead r =>
      match s.phase with
      | .execution _ reader =>
          (reader.served r).map fun block => { s with used := s.used ++ [⟨.read r, block⟩] }
      | _ => none
  | .rpcRead r =>
      match s.phase with
      | .execution blockNumber reader =>
          if reader.served r = none then
            s.request runner.virtualBlockExecutor.rpcStateReader.blockId (.read r) fun _ =>
              .execution blockNumber reader
          else none
      | _ => none
  | .executed =>
      match s.phase with
      | .execution blockNumber _ => some { s with phase := .hints blockNumber }
      | _ => none
  | .fetchClass classHash =>
      match s.phase with
      | .hints blockNumber =>
          s.request runner.classesProvider.blockId (.fetchedClass classHash) fun _ =>
            .hints blockNumber
      | _ => none
  | .fetchSingleProof =>
      match s.phase with
      | .hints blockNumber =>
          s.request (.number blockNumber) .storageProof fun _ => .hints blockNumber
      | _ => none
  | .finish =>
      match s.phase with
      | .finished => none
      | _ => some { s with phase := .finished }

/-- A run before its first request. -/
def ProvingRun.start (chain : Chain) : ProvingRun := ⟨chain, .baseBlockInfo, []⟩

/-! ### What one event does -/

/-- The event is a request that is sent with the block id of the run. -/
def Event.sendsBlockId : Event → Bool
  | .getBlockHeader | .simulate _ | .rpcRead _ | .fetchClass _ => true
  | _ => false

/-- The block numbers that a phase keeps. -/
def Phase.numbers : Phase → List ℕ
  | .stateReader blockNumber => [blockNumber]
  | .execution blockNumber .rpc => [blockNumber]
  | .execution blockNumber (.simulated _ block) => [blockNumber, block]
  | .hints blockNumber => [blockNumber]
  | .baseBlockInfo | .finished => []

/-- A request reads one block, and the run keeps no other number. -/
theorem ProvingRun.request_eq_some {s s' : ProvingRun} {blockId : BlockId} {datum : Datum}
    {phase : ℕ → Phase} (h : s.request blockId datum phase = some s') :
    ∃ block, s.chain.resolve blockId = some block ∧
      s' = { s with phase := phase block, used := s.used ++ [⟨datum, block⟩] } := by
  obtain ⟨block, hblock, rfl⟩ := Option.map_eq_some_iff.mp h
  exact ⟨block, hblock, rfl⟩

/-- The block of a served read is the one of the maps. -/
theorem ExecutionReader.served_mem {blockNumber block : ℕ} {reader : ExecutionReader}
    {r : StateRead} (h : reader.served r = some block) :
    block ∈ (Phase.execution blockNumber reader).numbers := by
  cases reader with
  | rpc => cases h
  | simulated stateMaps b =>
      have hb : block = b := by
        cases r <;> simp_all [ExecutionReader.served]
      simp [Phase.numbers, hb]

/-- The number of the header is kept through execution. -/
theorem Phase.mem_numbers_execution (blockNumber : ℕ) (reader : ExecutionReader) :
    blockNumber ∈ (Phase.execution blockNumber reader).numbers := by
  cases reader <;> simp [Phase.numbers]

/-- **What one event can do**: append a block; read the block that the id of the run stands for;
or read blocks whose numbers the run keeps. -/
theorem step_cases {prefetchState : Bool} {blockId : BlockId} {s s' : ProvingRun} {e : Event}
    (h : step (createRunner prefetchState blockId) s e = some s') :
    (∃ hash fresh, e = .newBlock hash ∧ s' = { s with chain := s.chain.push hash fresh }) ∨
      (e.sendsBlockId = true ∧ s'.chain = s.chain ∧
        ∃ block datum, s.chain.resolve blockId = some block ∧
          s'.used = s.used ++ [⟨datum, block⟩] ∧
          ∀ n ∈ s'.phase.numbers, n ∈ s.phase.numbers ∨ n = block) ∨
      (e.sendsBlockId = false ∧ (∀ hash, e ≠ .newBlock hash) ∧ s'.chain = s.chain ∧
        ∃ extra, s'.used = s.used ++ extra ∧ (∀ u ∈ extra, u.block ∈ s.phase.numbers) ∧
          ∀ n ∈ s'.phase.numbers, n ∈ s.phase.numbers) := by
  obtain ⟨chain, phase, used⟩ := s
  cases e with
  | newBlock hash =>
      simp only [step] at h
      split at h
      · rename_i fresh
        exact .inl ⟨hash, fresh, rfl, (Option.some.inj h).symm⟩
      · cases h
  | getBlockHeader =>
      cases phase with
      | baseBlockInfo =>
          obtain ⟨block, hblock, rfl⟩ := ProvingRun.request_eq_some h
          refine .inr (.inl ⟨rfl, rfl, block, _, hblock, rfl, fun n hn => ?_⟩)
          exact .inr (List.mem_singleton.mp hn)
      | _ => cases h
  | simulate stateMaps =>
      cases phase with
      | stateReader blockNumber =>
          cases prefetchState with
          | false => cases h
          | true =>
              obtain ⟨block, hblock, rfl⟩ := ProvingRun.request_eq_some h
              refine .inr (.inl ⟨rfl, rfl, block, _, hblock, rfl, fun n hn => ?_⟩)
              simpa [Phase.numbers] using hn
      | _ => cases h
  | skipSimulation =>
      cases phase with
      | stateReader blockNumber =>
          cases prefetchState with
          | true => cases h
          | false =>
              obtain rfl := Option.some.inj h
              exact .inr (.inr ⟨rfl, by simp, rfl, [], by simp, by simp, fun n hn => hn⟩)
      | _ => cases h
  | servedRead r =>
      cases phase with
      | execution blockNumber reader =>
          obtain ⟨block, hblock, rfl⟩ := Option.map_eq_some_iff.mp h
          refine .inr (.inr ⟨rfl, by simp, rfl, [⟨.read r, block⟩], rfl, ?_, fun n hn => hn⟩)
          intro u hu
          obtain rfl := List.mem_singleton.mp hu
          exact ExecutionReader.served_mem hblock
      | _ => cases h
  | rpcRead r =>
      cases phase with
      | execution blockNumber reader =>
          simp only [step] at h
          split at h
          · obtain ⟨block, hblock, rfl⟩ := ProvingRun.request_eq_some h
            exact .inr (.inl ⟨rfl, rfl, block, _, hblock, rfl, fun n hn => .inl hn⟩)
          · cases h
      | _ => cases h
  | executed =>
      cases phase with
      | execution blockNumber reader =>
          obtain rfl := Option.some.inj h
          refine .inr (.inr ⟨rfl, by simp, rfl, [], by simp, by simp, fun n hn => ?_⟩)
          obtain rfl := List.mem_singleton.mp hn
          exact Phase.mem_numbers_execution _ reader
      | _ => cases h
  | fetchClass classHash =>
      cases phase with
      | hints blockNumber =>
          obtain ⟨block, hblock, rfl⟩ := ProvingRun.request_eq_some h
          exact .inr (.inl ⟨rfl, rfl, block, _, hblock, rfl, fun n hn => .inl hn⟩)
      | _ => cases h
  | fetchSingleProof =>
      cases phase with
      | hints blockNumber =>
          obtain ⟨block, hblock, rfl⟩ := ProvingRun.request_eq_some h
          have hnumber : block = blockNumber := by
            simp only [Chain.resolve] at hblock
            split at hblock
            · exact (Option.some.inj hblock).symm
            · cases hblock
          refine .inr (.inr ⟨rfl, by simp, rfl, [⟨.storageProof, block⟩], rfl, ?_, fun n hn => hn⟩)
          intro u hu
          obtain rfl := List.mem_singleton.mp hu
          exact List.mem_singleton.mpr hnumber
      | _ => cases h
  | finish =>
      cases phase with
      | finished => cases h
      | _ =>
          obtain rfl := Option.some.inj h
          exact .inr (.inr ⟨rfl, by simp, rfl, [], by simp, by simp, by simp [Phase.numbers]⟩)

/-! ### One block -/

/-- Everything a run has read is about one block. -/
def SameBlock (used : List Use) : Prop := ∀ u ∈ used, ∀ v ∈ used, u.block = v.block

/-- A number or a hash stands for one block all along. -/
theorem sameBlock_of_ne_latest {prefetchState : Bool} {blockId : BlockId} {chain : Chain}
    {es : List Event} {s : ProvingRun} (hb : blockId ≠ .latest)
    (hrun : Run (step (createRunner prefetchState blockId)) (.start chain) es s) :
    SameBlock s.used := by
  have hinv : (∀ u ∈ s.used, s.chain.resolve blockId = some u.block) ∧
      ∀ n ∈ s.phase.numbers, s.chain.resolve blockId = some n := by
    refine hrun.invariant (P := fun s => (∀ u ∈ s.used, s.chain.resolve blockId = some u.block) ∧
      ∀ n ∈ s.phase.numbers, s.chain.resolve blockId = some n)
      ⟨by simp [ProvingRun.start], by simp [ProvingRun.start, Phase.numbers]⟩ ?_
    rintro s₁ e s₂ ⟨hused, hnum⟩ hs
    rcases step_cases hs with ⟨hash, fresh, rfl, rfl⟩
      | ⟨-, hchain, block, datum, hblock, hu, hn⟩ | ⟨-, -, hchain, extra, hu, hextra, hn⟩
    · exact ⟨fun u h => Chain.resolve_push fresh hb (hused u h),
        fun n h => Chain.resolve_push fresh hb (hnum n h)⟩
    · rw [hchain, hu]
      refine ⟨fun u h => ?_, fun n h => ?_⟩
      · rcases List.mem_append.mp h with h | h
        · exact hused u h
        · obtain rfl := List.mem_singleton.mp h
          exact hblock
      · rcases hn n h with h | rfl
        · exact hnum n h
        · exact hblock
    · rw [hchain, hu]
      refine ⟨fun u h => ?_, fun n h => hnum n (hn n h)⟩
      rcases List.mem_append.mp h with h | h
      · exact hused u h
      · exact hnum _ (hextra u h)
  intro u hu v hv
  exact Option.some.inj ((hinv.1 u hu).symm.trans (hinv.1 v hv))

/-! ### The latest block -/

/-- The height of the chain after some events. -/
def heightAfter : ℕ → List Event → ℕ
  | height, [] => height
  | height, .newBlock _ :: es => heightAfter (height + 1) es
  | height, _ :: es => heightAfter height es

/-- The heights of the chain at the requests that are sent with the block id of the run. -/
def requestHeights : ℕ → List Event → List ℕ
  | _, [] => []
  | height, .newBlock _ :: es => requestHeights (height + 1) es
  | height, e :: es =>
      if e.sendsBlockId then height :: requestHeights height es else requestHeights height es

/-- No block is appended between two requests that are sent with the block id of the run. -/
def OneHeight (height : ℕ) (es : List Event) : Prop :=
  ∀ x ∈ requestHeights height es, ∀ y ∈ requestHeights height es, x = y

theorem heightAfter_snoc (height : ℕ) (es : List Event) (e : Event) :
    heightAfter height (es ++ [e]) = heightAfter (heightAfter height es) [e] := by
  induction es generalizing height with
  | nil => rfl
  | cons e' es ih => cases e' <;> exact ih _

theorem requestHeights_snoc (height : ℕ) (es : List Event) (e : Event) :
    requestHeights height (es ++ [e])
      = requestHeights height es ++ requestHeights (heightAfter height es) [e] := by
  induction es generalizing height with
  | nil => rfl
  | cons e' es ih =>
      cases e' <;> simp [requestHeights, heightAfter, Event.sendsBlockId, ih]

/-- The chain is at least as high at a request as it was at the start. -/
theorem le_of_mem_requestHeights {height x : ℕ} {es : List Event}
    (h : x ∈ requestHeights height es) : height ≤ x := by
  induction es generalizing height with
  | nil => cases h
  | cons e es ih =>
      cases e with
      | newBlock hash => exact (Nat.le_succ height).trans (ih h)
      | getBlockHeader | simulate | rpcRead | fetchClass =>
          rcases List.mem_cons.mp h with rfl | h
          · exact le_rfl
          · exact ih h
      | skipSimulation | servedRead | executed | fetchSingleProof | finish => exact ih h

/-- An event that is no new block leaves the height alone and adds it where it sends a request. -/
theorem requestHeights_single {e : Event} (he : ∀ hash, e ≠ .newBlock hash) (height : ℕ) :
    heightAfter height [e] = height ∧
      requestHeights height [e] = if e.sendsBlockId then [height] else [] := by
  cases e with
  | newBlock hash => exact absurd rfl (he hash)
  | _ => exact ⟨rfl, rfl⟩

/-- The blocks that a run at `latest` has read are the tips at its requests. -/
theorem mem_used_iff {prefetchState : Bool} {chain : Chain} {es : List Event} {s : ProvingRun}
    (hrun : Run (step (createRunner prefetchState .latest)) (.start chain) es s) (b : ℕ) :
    (∃ u ∈ s.used, u.block = b) ↔ b + 1 ∈ requestHeights chain.height es := by
  have hinv : s.chain.height = heightAfter chain.height es ∧
      (∀ b, (∃ u ∈ s.used, u.block = b) ↔ b + 1 ∈ requestHeights chain.height es) ∧
      ∀ n ∈ s.phase.numbers, n + 1 ∈ requestHeights chain.height es := by
    refine hrun.history_induction (P := fun es s => s.chain.height = heightAfter chain.height es ∧
      (∀ b, (∃ u ∈ s.used, u.block = b) ↔ b + 1 ∈ requestHeights chain.height es) ∧
      ∀ n ∈ s.phase.numbers, n + 1 ∈ requestHeights chain.height es)
      ⟨rfl, by simp [ProvingRun.start, requestHeights],
        by simp [ProvingRun.start, Phase.numbers]⟩ ?_
    rintro es s₁ e s₂ ⟨hheight, hused, hnum⟩ hs
    rw [heightAfter_snoc, requestHeights_snoc, ← hheight]
    rcases step_cases hs with ⟨hash, fresh, rfl, rfl⟩
      | ⟨hsend, hchain, block, datum, hblock, hu, hn⟩ | ⟨hsend, hne, hchain, extra, hu, hextra, hn⟩
    · have hnone : requestHeights s₁.chain.height [.newBlock hash] = [] := rfl
      rw [hnone, List.append_nil]
      exact ⟨Chain.height_push _ _ fresh, hused, hnum⟩
    · have hne : ∀ hash, e ≠ .newBlock hash := by
        rintro hash rfl
        cases hsend
      obtain ⟨hafter, hheights⟩ := requestHeights_single hne s₁.chain.height
      have htip : block + 1 = s₁.chain.height := by
        have hpos := s₁.chain.height_pos
        have hlast := Option.some.inj hblock
        omega
      rw [hafter, hheights, hsend, if_pos rfl, hchain, hu]
      refine ⟨rfl, fun b => ?_, fun n h => ?_⟩
      · simp only [List.mem_append, List.mem_singleton, or_and_right, exists_or, hused,
          exists_eq_left]
        exact or_congr_right (by omega)
      · rcases hn n h with h | rfl
        · exact List.mem_append_left _ (hnum n h)
        · simp [htip]
    · obtain ⟨hafter, hheights⟩ := requestHeights_single hne s₁.chain.height
      rw [hafter, hheights, hsend, if_neg Bool.false_ne_true, List.append_nil, hchain, hu]
      refine ⟨rfl, fun b => ?_, fun n h => hnum n (hn n h)⟩
      rw [← hused]
      constructor
      · rintro ⟨u, h, rfl⟩
        rcases List.mem_append.mp h with h | h
        · exact ⟨u, h, rfl⟩
        · exact (hused _).mpr (hnum _ (hextra u h))
      · rintro ⟨u, h, rfl⟩
        exact ⟨u, List.mem_append_left _ h, rfl⟩
  exact hinv.2.1 b

/-- **A run at `latest` reads one block** exactly when all its requests are sent at one height of
the chain. -/
theorem sameBlock_latest_iff {prefetchState : Bool} {chain : Chain} {es : List Event}
    {s : ProvingRun}
    (hrun : Run (step (createRunner prefetchState .latest)) (.start chain) es s) :
    SameBlock s.used ↔ OneHeight chain.height es := by
  have hmem := mem_used_iff hrun
  have hpred : ∀ x ∈ requestHeights chain.height es, ∃ u ∈ s.used, u.block + 1 = x := by
    intro x hx
    have hpos := chain.height_pos
    have hle := le_of_mem_requestHeights hx
    obtain ⟨u, hu, hux⟩ := (hmem (x - 1)).mpr (by rwa [Nat.sub_add_cancel (by omega)])
    exact ⟨u, hu, by omega⟩
  constructor
  · intro h x hx y hy
    obtain ⟨u, hu, rfl⟩ := hpred x hx
    obtain ⟨v, hv, rfl⟩ := hpred y hy
    rw [h u hu v hv]
  · intro h u hu v hv
    have hheights := h _ ((hmem u.block).mp ⟨u, hu, rfl⟩) _ ((hmem v.block).mp ⟨v, hv, rfl⟩)
    omega

/-- **One proving run reads one block** exactly when its block id is a number or a hash, or no
block is appended between two requests that are sent with `latest`. -/
theorem sameBlock_iff {prefetchState : Bool} {blockId : BlockId} {runner : RpcRunner}
    (haccept : acceptBlockId prefetchState blockId = .ok runner) {chain : Chain}
    {es : List Event} {s : ProvingRun} (hrun : Run (step runner) (.start chain) es s) :
    SameBlock s.used ↔ blockId ≠ .latest ∨ OneHeight chain.height es := by
  have hrunner : runner = createRunner prefetchState blockId := by
    unfold acceptBlockId at haccept
    split at haccept
    · cases haccept
    · exact (Except.ok.inj haccept).symm
  subst hrunner
  by_cases hb : blockId = .latest
  · subst hb
    simpa using sameBlock_latest_iff hrun
  · exact iff_of_true (sameBlock_of_ne_latest hb hrun) (.inl hb)

/-! ### A block between the header and the simulation -/

/-- A chain with one block. -/
def genesis : Chain := ⟨[100], by decide, by decide⟩

/-- The header is read, a block is appended, and the state is simulated. -/
def straddlingEvents : List Event :=
  [.getBlockHeader, .newBlock 101, .simulate .default]

theorem sameBlock_iff_sample :
    ∃ s, Run (step (createRunner true (.number 0))) (.start genesis) straddlingEvents s ∧
      (SameBlock s.used ↔
        (BlockId.number 0) ≠ .latest ∨ OneHeight genesis.height straddlingEvents) := by
  have hrun : Run (step (createRunner true (.number 0))) (.start genesis) straddlingEvents _ :=
    Run.of_runEvents rfl
  have haccept : acceptBlockId true (.number 0) = .ok (createRunner true (.number 0)) := rfl
  exact ⟨_, hrun, sameBlock_iff haccept hrun⟩

theorem not_sameBlock_of_newBlock :
    ∃ runner s, acceptBlockId true .latest = .ok runner ∧
      Run (step runner) (.start genesis) straddlingEvents s ∧ ¬ SameBlock s.used := by
  have hrun : Run (step (createRunner true .latest)) (.start genesis) straddlingEvents _ :=
    Run.of_runEvents rfl
  refine ⟨_, _, rfl, hrun, fun h => ?_⟩
  have hblocks := h ⟨.header, 0⟩ (.head _) ⟨.initialReads, 1⟩ (.tail _ (.head _))
  cases hblocks

end Snip36.Proving
