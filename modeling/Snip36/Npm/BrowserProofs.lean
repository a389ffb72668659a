import Snip36.Npm.Workers
import Snip36.Support.OneShot

/-!
# Npm — proofs in the browser

`proveSnip36InBrowser` looks up the latest block if none is given, has a worker execute the
transaction and another prove the result.  A page may be at many proofs at once, each of them
waiting for a node or for a worker.

`browserProofs_refine`: a bundle is the one that the program makes when its steps follow each other
without a page around them, and an error is its error or that of a worker that was disturbed.  No
two proofs share a worker, and a proof can always come to its end.
-/

namespace Snip36.Npm
open Support Artifacts

/-! ### A proof by itself -/

/-- `Snip36ProveRequest`. -/
structure Snip36ProveRequest where
  rpcUrl : String
  blockNumber : Option (BitVec 64)
  txJson : Json
  chainId : String
  strkFeeTokenAddress : String

/-- What a page calls: its workers, and the node that the `p`-th proof asks for a block. -/
structure PageWasm extends WorkerWasm where
  fetchLatestBlockNumber : ℕ → Except String (BitVec 64)

section Pure

variable (wasm : PageWasm)

/-- `fetchTransactionForProving`. -/
def fetchTransactionForProving (input : Snip36ProveRequest) : Except String Json :=
  if wasm.truthy input.txJson then .ok input.txJson else .error "provide tx_json"

/-- `createProofArtifact`, at the block that is used. -/
def createProofArtifact (input : Snip36ProveRequest) (transaction : Json)
    (blockNumber : BitVec 64) : Snip36ProofArtifact where
  version := 1
  blockNumber
  rpcUrl := input.rpcUrl
  chainId := input.chainId
  strkFeeTokenAddress := input.strkFeeTokenAddress
  txHash := none
  transaction
  executionPayload := none
  proofFactsPreimage := none
  rawMessages := none

/-- The `config` of `generateExecutionPayloadInBrowser`. -/
def postedConfig (artifact : Snip36ProofArtifact) : Json :=
  mapExecutorConfig
    (fun config =>
      withField "validate_txs" (.bool false) (withField "prefetch_state" (.bool false) config))
    (.obj [
      ("rpc_node_url", .str artifact.rpcUrl),
      ("chain_id", .str artifact.chainId),
      ("validate_zero_fee_fields", .bool false),
      ("strk_fee_token_address", .str artifact.strkFeeTokenAddress)])

/-- The request of `generateExecutionPayloadInBrowser`. -/
def generateRequest (artifact : Snip36ProofArtifact) : WorkerRequest :=
  .generateExecutionPayloadInBrowser (postedConfig artifact) artifact.blockNumber
    artifact.transaction

/-- `executeVirtualBlockInBrowser`, once there is a payload. -/
def executedArtifact (artifact : Snip36ProofArtifact) (payload : Json) : Snip36ProofArtifact :=
  executeVirtualBlockInBrowser wasm.toBrowser artifact artifact.blockNumber payload

/-- `generateExecutionPayloadInBrowser`, in the `i`-th worker. -/
def generatePayload (i : ℕ) (artifact : Snip36ProofArtifact) : Except String Json := do
  wasm.load i .core
  wasm.load i .transactionProver
  wasm.exportTransactionCairoPie i (postedConfig artifact) artifact.blockNumber
    artifact.transaction

/-- `proveArtifactInBrowser`, in the `i`-th worker. -/
def proveArtifact (i : ℕ) (artifact : Snip36ProofArtifact) : Except String Snip36ProofBundle := do
  wasm.load i .core
  wasm.load i .browserProver
  Artifacts.proveArtifactInBrowser wasm.toBrowser artifact

/-- The artifact that the `p`-th proof begins with. -/
def firstArtifact (p : ℕ) (input : Snip36ProveRequest) : Except String Snip36ProofArtifact := do
  let transaction ← fetchTransactionForProving wasm input
  let blockNumber ←
    match input.blockNumber with
    | some blockNumber => pure blockNumber
    | none => wasm.fetchLatestBlockNumber p
  pure (createProofArtifact input transaction blockNumber)

/-- `proveSnip36InBrowser`, by itself, in the workers `i` and `i'`. -/
def proveSnip36InBrowser (p i i' : ℕ) (input : Snip36ProveRequest) :
    Except String Snip36ProofBundle := do
  let artifact ← firstArtifact wasm p input
  let payload ← generatePayload wasm i artifact
  proveArtifact wasm i' (executedArtifact wasm artifact payload)

end Pure

/-! ### The posted requests -/

/-- The worker changes nothing in the config that it is posted. -/
theorem workerConfig_postedConfig (artifact : Snip36ProofArtifact) :
    workerConfig (postedConfig artifact) = postedConfig artifact := by
  rfl

theorem handle_generateRequest (wasm : PageWasm) (i : ℕ) (artifact : Snip36ProofArtifact) :
    wasm.handle i (generateRequest artifact)
      = (generatePayload wasm i artifact).map .generateExecutionPayloadInBrowser := by
  rw [generatePayload, ← workerConfig_postedConfig]
  cases hcore : wasm.load i .core with
  | error e => simp only [WorkerWasm.handle, hcore]; rfl
  | ok u =>
      cases hload : wasm.load i .transactionProver with
      | error e =>
          simp only [WorkerWasm.handle, generateRequest, WorkerRequest.wasmModule, hcore, hload]
          rfl
      | ok v =>
          simp only [WorkerWasm.handle, generateRequest, WorkerRequest.wasmModule, hcore, hload]
          rfl

theorem handle_proveArtifact (wasm : PageWasm) (i : ℕ) (artifact : Snip36ProofArtifact) :
    wasm.handle i (.proveArtifactInBrowser artifact)
      = (proveArtifact wasm i artifact).map .proveArtifactInBrowser := by
  rw [proveArtifact]
  cases hcore : wasm.load i .core with
  | error e => simp only [WorkerWasm.handle, hcore]; rfl
  | ok u =>
      cases hload : wasm.load i .browserProver with
      | error e => simp only [WorkerWasm.handle, WorkerRequest.wasmModule, hcore, hload]; rfl
      | ok v => simp only [WorkerWasm.handle, WorkerRequest.wasmModule, hcore, hload]; rfl

/-! ### A page -/

/-- Where a call of `proveSnip36InBrowser` is. -/
inductive ProofPhase where
  | fetchingBlock
  | executing (artifact : Snip36ProofArtifact) (worker : ℕ)
  | proving (worker : ℕ)
  | done (result : Except String Snip36ProofBundle)

/-- A call of `proveSnip36InBrowser`, with the workers that it has made. -/
structure ProofRun where
  input : Snip36ProveRequest
  phase : ProofPhase
  workers : List ℕ

/-- A page: its requests to workers, by the number of the worker, and its proofs. -/
structure Page where
  exchanges : ℕ → Option Exchange
  nextWorker : ℕ
  proofs : ℕ → Option ProofRun
  nextProof : ℕ

/-- What happens on a page. -/
inductive PageStep where
  | proves (input : Snip36ProveRequest)
  /-- The node answers the `p`-th proof, or fails it. -/
  | fetched (p : ℕ)
  | exchange (i : ℕ) (e : ExchangeEvent)
  /-- The `p`-th proof goes on, as what it awaits is settled. -/
  | continues (p : ℕ)

namespace Page

/-- A page without proofs. -/
def new : Page := ⟨fun _ => none, 0, fun _ => none, 0⟩

/-- The `p`-th proof is at the phase. -/
def setProof (s : Page) (p : ℕ) (run : ProofRun) : Page :=
  { s with proofs := Function.update s.proofs p (some run) }

/-- A proof makes a worker and posts a request to it. -/
def runWorkerRequest (s : Page) (p : ℕ) (run : ProofRun) (request : WorkerRequest)
    (phase : ℕ → ProofPhase) : Page :=
  { s.setProof p { run with
      phase := phase s.nextWorker
      workers := run.workers ++ [s.nextWorker] } with
    exchanges := Function.update s.exchanges s.nextWorker (some (.start request))
    nextWorker := s.nextWorker + 1 }

/-- A proof ends. -/
def finish (s : Page) (p : ℕ) (run : ProofRun) (result : Except String Snip36ProofBundle) : Page :=
  s.setProof p { run with phase := .done result }

/-- A proof begins with the artifact, or fails before. -/
def begin (s : Page) (p : ℕ) (run : ProofRun) : Except String Snip36ProofArtifact → Page
  | .error e => s.finish p run (.error e)
  | .ok artifact => s.runWorkerRequest p run (generateRequest artifact) (.executing artifact)

/-- What the promise of a worker is settled with. -/
def outcome (s : Page) (i : ℕ) : Option WorkerResponse := (s.exchanges i).bind (·.outcome)

/-- What an event does to a page. -/
def step (wasm : PageWasm) (s : Page) : PageStep → Option Page
  | .proves input =>
      let p := s.nextProof
      let s' := { s with nextProof := p + 1 }
      match fetchTransactionForProving wasm input, input.blockNumber with
      | .ok _, none => some (s'.setProof p ⟨input, .fetchingBlock, []⟩)
      | _, _ => some (s'.begin p ⟨input, .fetchingBlock, []⟩ (firstArtifact wasm p input))
  | .fetched p =>
      match s.proofs p with
      | some ⟨input, .fetchingBlock, workers⟩ =>
          some (s.begin p ⟨input, .fetchingBlock, workers⟩ (firstArtifact wasm p input))
      | _ => none
  | .exchange i e =>
      match s.exchanges i with
      | some x => (x.step wasm.toWorkerWasm i e).map fun x' =>
          { s with exchanges := Function.update s.exchanges i (some x') }
      | none => none
  | .continues p =>
      match s.proofs p with
      | some ⟨input, .executing artifact i, workers⟩ =>
          match s.outcome i with
          | some (.error e) =>
              some (s.finish p ⟨input, .executing artifact i, workers⟩ (.error e))
          | some (.ok (.generateExecutionPayloadInBrowser payload)) =>
              some (s.runWorkerRequest p ⟨input, .executing artifact i, workers⟩
                (.proveArtifactInBrowser (executedArtifact wasm artifact payload)) .proving)
          | _ => none
      | some ⟨input, .proving i, workers⟩ =>
          match s.outcome i with
          | some (.error e) => some (s.finish p ⟨input, .proving i, workers⟩ (.error e))
          | some (.ok (.proveArtifactInBrowser bundle)) =>
              some (s.finish p ⟨input, .proving i, workers⟩ (.ok bundle))
          | _ => none
      | _ => none

end Page

/-! ### What holds of a page -/

/-- The events of a worker. -/
def workerEvents (i : ℕ) (es : List PageStep) : List ExchangeEvent :=
  es.filterMap fun
    | .exchange j e => if j = i then some e else none
    | _ => none

/-- A request was posted to the `i`-th worker. -/
def Page.Awaits (s : Page) (i : ℕ) (request : WorkerRequest) : Prop :=
  ∃ x, s.exchanges i = some x ∧ x.request = request

/-- The proof fails by itself, or one of its workers was disturbed. -/
def Fails (wasm : PageWasm) (es : List PageStep) (p : ℕ) (run : ProofRun) (e : String) : Prop :=
  (∃ i i', proveSnip36InBrowser wasm p i i' run.input = .error e) ∨
    ∃ i ∈ run.workers, Disturbs (workerEvents i es) e

/-- What a phase of a proof says about it. -/
def ProofRun.Sound (wasm : PageWasm) (es : List PageStep) (s : Page) (p : ℕ) (run : ProofRun) :
    Prop :=
  match run.phase with
  | .fetchingBlock => run.workers = []
  | .executing artifact i =>
      run.workers = [i] ∧ firstArtifact wasm p run.input = .ok artifact ∧
        s.Awaits i (generateRequest artifact)
  | .proving i' =>
      ∃ artifact i payload, run.workers = [i, i'] ∧ i ≠ i' ∧
        firstArtifact wasm p run.input = .ok artifact ∧
        generatePayload wasm i artifact = .ok payload ∧
        s.Awaits i' (.proveArtifactInBrowser (executedArtifact wasm artifact payload))
  | .done (.ok bundle) =>
      ∃ i i', run.workers = [i, i'] ∧ i ≠ i' ∧
        proveSnip36InBrowser wasm p i i' run.input = .ok bundle
  | .done (.error e) => Fails wasm es p run e

/-- What holds of a page at any time. -/
structure Page.Sound (wasm : PageWasm) (es : List PageStep) (s : Page) : Prop where
  exchanges : ∀ i x, s.exchanges i = some x →
    i < s.nextWorker ∧ x.Sound wasm.toWorkerWasm i x.request (workerEvents i es)
  proofs : ∀ p run, s.proofs p = some run → p < s.nextProof ∧ run.Sound wasm es s p
  workers : ∀ p run, s.proofs p = some run → ∀ i ∈ run.workers, i < s.nextWorker
  apart : ∀ p p' run run', s.proofs p = some run → s.proofs p' = some run' →
    ∀ i ∈ run.workers, i ∈ run'.workers → p = p'

variable {wasm : PageWasm} {es : List PageStep} {s s' : Page} {p : ℕ} {run : ProofRun}

theorem workerEvents_exchange (i : ℕ) (es : List PageStep) (e : ExchangeEvent) :
    workerEvents i (es ++ [.exchange i e]) = workerEvents i es ++ [e] := by
  simp [workerEvents, List.filterMap_append]

theorem workerEvents_of_ne {i : ℕ} {step : PageStep} (h : ∀ e, step ≠ .exchange i e) :
    workerEvents i (es ++ [step]) = workerEvents i es := by
  cases step with
  | exchange j e =>
      have hj : j ≠ i := by
        rintro rfl
        exact h e rfl
      simp [workerEvents, List.filterMap_append, hj]
  | _ => simp [workerEvents, List.filterMap_append]

theorem Disturbs.workerEvents {i : ℕ} {step : PageStep} {e : String}
    (h : Disturbs (workerEvents i es) e) : Disturbs (Npm.workerEvents i (es ++ [step])) e := by
  by_cases hstep : ∃ e', step = .exchange i e'
  · obtain ⟨e', rfl⟩ := hstep
    rw [workerEvents_exchange]
    exact h.append
  · rw [workerEvents_of_ne fun e' he' => hstep ⟨e', he'⟩]
    exact h

/-- A proof sees nothing of what happens to others. -/
theorem ProofRun.Sound.mono {es' : List PageStep} (h : run.Sound wasm es s p)
    (hes : ∀ i e, Disturbs (workerEvents i es) e → Disturbs (workerEvents i es') e)
    (hawaits : ∀ i request, s.Awaits i request → s'.Awaits i request) :
    run.Sound wasm es' s' p := by
  obtain ⟨input, phase, workers⟩ := run
  cases phase with
  | fetchingBlock => exact h
  | executing artifact i =>
      obtain ⟨hworkers, hartifact, hi⟩ := h
      exact ⟨hworkers, hartifact, hawaits i _ hi⟩
  | proving i' =>
      obtain ⟨artifact, i, payload, hworkers, hne, hartifact, hpayload, hi'⟩ := h
      exact ⟨artifact, i, payload, hworkers, hne, hartifact, hpayload, hawaits i' _ hi'⟩
  | done result =>
      cases result with
      | ok bundle => exact h
      | error e =>
          rcases h with h | ⟨i, hi, h⟩
          · exact .inl h
          · exact .inr ⟨i, hi, hes i e h⟩

namespace Page

theorem sound_new : Sound wasm [] new where
  exchanges i x h := by cases h
  proofs p run h := by cases h
  workers p run h := by cases h
  apart p p' run run' h := by cases h

/-- An event that is none of a worker's is none of its events. -/
theorem Sound.event (h : Sound wasm es s) (step : PageStep) (hstep : ∀ i e, step ≠ .exchange i e) :
    Sound wasm (es ++ [step]) s where
  exchanges i x hx := by
    rw [workerEvents_of_ne (hstep i)]
    exact h.exchanges i x hx
  proofs p run hp :=
    ⟨(h.proofs p run hp).1,
      (h.proofs p run hp).2.mono (fun _ _ hd => hd.workerEvents) fun _ _ => id⟩
  workers := h.workers
  apart := h.apart

/-- The number of proofs grows. -/
theorem Sound.nextProof {n : ℕ} (h : Sound wasm es s) (hn : s.nextProof ≤ n) :
    Sound wasm es { s with nextProof := n } where
  exchanges := h.exchanges
  proofs p run hp := ⟨(h.proofs p run hp).1.trans_le hn, (h.proofs p run hp).2⟩
  workers := h.workers
  apart := h.apart

/-- The workers of a proof are there, and no other proof's. -/
def Owns (s : Page) (p : ℕ) (workers : List ℕ) : Prop :=
  ∀ i ∈ workers, i < s.nextWorker ∧
    ∀ p' run', s.proofs p' = some run' → i ∈ run'.workers → p' = p

theorem Sound.owns (h : Sound wasm es s) (hp : s.proofs p = some run) : s.Owns p run.workers :=
  fun i hi =>
    ⟨h.workers p run hp i hi, fun p' run' hp' hi' => h.apart p' p run' run hp' hp i hi' hi⟩

theorem Sound.setProof (h : Sound wasm es s) (hp : p < s.nextProof)
    (hrun : run.Sound wasm es s p) (howns : s.Owns p run.workers) :
    Sound wasm es (s.setProof p run) where
  exchanges := h.exchanges
  proofs := forall_update_some (fun p' run' hp' => h.proofs p' run' hp') ⟨hp, hrun⟩
  workers := forall_update_some h.workers fun i hi => (howns i hi).1
  apart p₁ p₂ run₁ run₂ h₁ h₂ i hi₁ hi₂ := by
    rcases update_some_eq_some.mp h₁ with ⟨rfl, rfl⟩ | ⟨-, h₁'⟩
    · rcases update_some_eq_some.mp h₂ with ⟨rfl, rfl⟩ | ⟨-, h₂'⟩
      · rfl
      · exact ((howns i hi₁).2 p₂ run₂ h₂' hi₂).symm
    · rcases update_some_eq_some.mp h₂ with ⟨rfl, rfl⟩ | ⟨-, h₂'⟩
      · exact (howns i hi₂).2 p₁ run₁ h₁' hi₁
      · exact h.apart p₁ p₂ run₁ run₂ h₁' h₂' i hi₁ hi₂

/-- A request is posted to a new worker. -/
theorem Sound.start (h : Sound wasm es s) (request : WorkerRequest) :
    Sound wasm es { s with
      exchanges := Function.update s.exchanges s.nextWorker (some (.start request))
      nextWorker := s.nextWorker + 1 } where
  exchanges := forall_update_some
    (fun i x hx => ⟨(h.exchanges i x hx).1.trans (Nat.lt_succ_self _), (h.exchanges i x hx).2⟩)
    ⟨Nat.lt_succ_self _, Exchange.sound_start⟩
  proofs p run hp := by
    obtain ⟨hlt, hrun⟩ := h.proofs p run hp
    refine ⟨hlt, hrun.mono (fun _ _ => id) ?_⟩
    rintro i request' ⟨x, hx, hrequest⟩
    have hne : i ≠ s.nextWorker := (h.exchanges i x hx).1.ne
    exact ⟨x, update_some_eq_some.mpr (.inr ⟨hne, hx⟩), hrequest⟩
  workers p run hp i hi := (h.workers p run hp i hi).trans (Nat.lt_succ_self _)
  apart := h.apart

/-- A proof posts a request to a worker of its own. -/
theorem Sound.runWorkerRequest (h : Sound wasm es s) (hp : p < s.nextProof)
    (howns : s.Owns p run.workers) {request : WorkerRequest} {phase : ℕ → ProofPhase}
    (hrun : ∀ s' : Page, s'.Awaits s.nextWorker request → ∀ workers,
      workers = run.workers ++ [s.nextWorker] →
        (ProofRun.mk run.input (phase s.nextWorker) workers).Sound wasm es s' p) :
    Sound wasm es (s.runWorkerRequest p run request phase) := by
  refine (h.start request).setProof (p := p) hp (hrun _ ?_ _ rfl) fun i hi => ?_
  · exact ⟨.start request, Function.update_self .., rfl⟩
  · rcases List.mem_append.mp hi with hi | hi
    · exact ⟨(howns i hi).1.trans (Nat.lt_succ_self _), (howns i hi).2⟩
    · obtain rfl := List.mem_singleton.mp hi
      exact ⟨Nat.lt_succ_self _, fun p' run' hp' hi' =>
        absurd (h.workers p' run' hp' _ hi') (lt_irrefl _)⟩

/-- A proof begins. -/
theorem Sound.begin (h : Sound wasm es s) (run : ProofRun) (hp : p < s.nextProof)
    (hworkers : run.workers = []) :
    Sound wasm es (s.begin p run (firstArtifact wasm p run.input)) := by
  have howns : s.Owns p run.workers := fun i hi => by
    rw [hworkers] at hi
    cases hi
  cases hfirst : firstArtifact wasm p run.input with
  | error e =>
      refine h.setProof hp (.inl ⟨0, 0, ?_⟩) howns
      rw [proveSnip36InBrowser, hfirst]
      rfl
  | ok artifact =>
      refine h.runWorkerRequest hp howns fun s' hawaits workers hw => ?_
      rw [hworkers] at hw
      exact ⟨hw, hfirst, hawaits⟩

/-- The outcome of a worker that a proof awaits. -/
theorem Sound.settles (h : Sound wasm es s) {i : ℕ} {request : WorkerRequest}
    (hawaits : s.Awaits i request) {r : WorkerResponse} (hr : s.outcome i = some r) :
    Settles wasm.toWorkerWasm i request (workerEvents i es) r := by
  obtain ⟨x, hx, rfl⟩ := hawaits
  rw [outcome, hx] at hr
  exact (h.exchanges i x hx).2.outcome r hr

/-- What a proof does when it goes on. -/
theorem continues_cases (hs : s.step wasm (.continues p) = some s') :
    ∃ run, s.proofs p = some run ∧
      ((∃ artifact i, run.phase = .executing artifact i ∧
          ((∃ e, s.outcome i = some (.error e) ∧ s' = s.finish p run (.error e)) ∨
            ∃ payload, s.outcome i = some (.ok (.generateExecutionPayloadInBrowser payload)) ∧
              s' = s.runWorkerRequest p run
                (.proveArtifactInBrowser (executedArtifact wasm artifact payload)) .proving)) ∨
        ∃ i, run.phase = .proving i ∧
          ((∃ e, s.outcome i = some (.error e) ∧ s' = s.finish p run (.error e)) ∨
            ∃ bundle, s.outcome i = some (.ok (.proveArtifactInBrowser bundle)) ∧
              s' = s.finish p run (.ok bundle))) := by
  simp only [step] at hs
  split at hs
  · rename_i input artifact i workers hp
    refine ⟨_, hp, .inl ⟨artifact, i, rfl, ?_⟩⟩
    split at hs
    · next e hr => exact .inl ⟨e, hr, (Option.some.inj hs).symm⟩
    · next payload hr => exact .inr ⟨payload, hr, (Option.some.inj hs).symm⟩
    · cases hs
  · rename_i input i workers hp
    refine ⟨_, hp, .inr ⟨i, rfl, ?_⟩⟩
    split at hs
    · next e hr => exact .inl ⟨e, hr, (Option.some.inj hs).symm⟩
    · next bundle hr => exact .inr ⟨bundle, hr, (Option.some.inj hs).symm⟩
    · cases hs
  · cases hs

theorem Sound.continues (h : Sound wasm es s) (hs : s.step wasm (.continues p) = some s') :
    Sound wasm es s' := by
  obtain ⟨⟨input, phase, workers⟩, hp, hcases⟩ := continues_cases hs
  obtain ⟨hlt, hrun⟩ := h.proofs p _ hp
  have howns := h.owns hp
  rcases hcases with ⟨artifact, i, rfl, hcases⟩ | ⟨i', rfl, hcases⟩
  · obtain ⟨rfl, hartifact, hawaits⟩ := hrun
    rcases hcases with ⟨e, hr, rfl⟩ | ⟨payload, hr, rfl⟩
    · refine h.setProof hlt ?_ howns
      rcases h.settles hawaits hr with hhandle | ⟨e', he', hdisturbs⟩
      · rw [handle_generateRequest] at hhandle
        exact .inl ⟨i, i, bind_eq_error.mpr
          (.inr ⟨artifact, hartifact, bind_eq_error.mpr (.inl (map_eq_error.mp hhandle.symm))⟩)⟩
      · obtain rfl := Except.error.inj he'
        exact .inr ⟨i, List.mem_cons_self, hdisturbs⟩
    · have hhandle := (h.settles hawaits hr).handle_eq
      rw [handle_generateRequest] at hhandle
      obtain ⟨payload', hpayload, heq⟩ := map_eq_ok.mp hhandle
      obtain rfl := WorkerValue.generateExecutionPayloadInBrowser.inj heq
      refine h.runWorkerRequest hlt howns fun s' hawaits' workers hw => ?_
      have hi : i < s.nextWorker := (howns i List.mem_cons_self).1
      exact ⟨artifact, i, payload', hw, hi.ne, hartifact, hpayload, hawaits'⟩
  · obtain ⟨artifact, i, payload, rfl, hne, hartifact, hpayload, hawaits⟩ := hrun
    rcases hcases with ⟨e, hr, rfl⟩ | ⟨bundle, hr, rfl⟩
    · refine h.setProof hlt ?_ howns
      rcases h.settles hawaits hr with hhandle | ⟨e', he', hdisturbs⟩
      · rw [handle_proveArtifact] at hhandle
        exact .inl ⟨i, i', bind_eq_error.mpr (.inr ⟨artifact, hartifact,
          bind_eq_error.mpr (.inr ⟨payload, hpayload, map_eq_error.mp hhandle.symm⟩)⟩)⟩
      · obtain rfl := Except.error.inj he'
        exact .inr ⟨i', by simp, hdisturbs⟩
    · have hhandle := (h.settles hawaits hr).handle_eq
      rw [handle_proveArtifact] at hhandle
      obtain ⟨bundle', hbundle, heq⟩ := map_eq_ok.mp hhandle
      obtain rfl := WorkerValue.proveArtifactInBrowser.inj heq
      exact h.setProof hlt ⟨i, i', rfl, hne, bind_eq_ok.mpr
        ⟨artifact, hartifact, bind_eq_ok.mpr ⟨payload, hpayload, hbundle⟩⟩⟩ howns

/-- An event of a worker. -/
theorem Sound.exchange {i : ℕ} {e : ExchangeEvent} (h : Sound wasm es s)
    (hs : s.step wasm (.exchange i e) = some s') : Sound wasm (es ++ [.exchange i e]) s' := by
  simp only [step] at hs
  split at hs
  · rename_i x hx
    obtain ⟨x', hx', rfl⟩ := Option.map_eq_some_iff.mp hs
    obtain ⟨hlt, hsound⟩ := h.exchanges i x hx
    have hsound' := Exchange.sound_step hsound hx'
    refine ⟨?_, fun p run hp => ?_, h.workers, h.apart⟩
    · intro j y hy
      rcases update_some_eq_some.mp hy with ⟨rfl, rfl⟩ | ⟨hne, hy⟩
      · refine ⟨hlt, ?_⟩
        rw [workerEvents_exchange, hsound'.own]
        exact hsound'
      · rw [workerEvents_of_ne (by rintro e' heq; cases heq; exact hne rfl)]
        exact h.exchanges j y hy
    · obtain ⟨hpn, hrun⟩ := h.proofs p run hp
      refine ⟨hpn, hrun.mono (fun _ _ hd => hd.workerEvents) ?_⟩
      rintro j request ⟨y, hy, hrequest⟩
      by_cases hj : j = i
      · subst hj
        obtain rfl := Option.some.inj (hx.symm.trans hy)
        exact ⟨x', Function.update_self .., hsound'.own.trans hrequest⟩
      · exact ⟨y, update_some_eq_some.mpr (.inr ⟨hj, hy⟩), hrequest⟩
  · cases hs

theorem sound_step {step : PageStep} (h : Sound wasm es s) (hs : s.step wasm step = some s') :
    Sound wasm (es ++ [step]) s' := by
  cases step with
  | exchange i e => exact h.exchange hs
  | continues p =>
      have h' := h.event (.continues p) (by rintro i e ⟨⟩)
      exact h'.continues hs
  | fetched p =>
      have h' := h.event (.fetched p) (by rintro i e ⟨⟩)
      simp only [Page.step] at hs
      split at hs
      · rename_i input workers hp
        obtain rfl := Option.some.inj hs
        obtain ⟨hlt, hrun⟩ := h'.proofs p _ hp
        exact h'.begin ⟨input, .fetchingBlock, workers⟩ hlt hrun
      · cases hs
  | proves input =>
      have h' := (h.event (.proves input) (by rintro i e ⟨⟩)).nextProof
        (Nat.le_succ s.nextProof)
      simp only [Page.step] at hs
      split at hs
      · obtain rfl := Option.some.inj hs
        exact h'.setProof (Nat.lt_succ_self _) rfl fun i hi => absurd hi List.not_mem_nil
      · obtain rfl := Option.some.inj hs
        exact h'.begin ⟨input, .fetchingBlock, []⟩ (Nat.lt_succ_self _) rfl

theorem sound_of_run (hrun : Run (step wasm) new es s) : Sound wasm es s :=
  hrun.history_induction sound_new fun _ _ _ _ => sound_step

/-! ### Every proof can end -/

/-- Some events bring the proof to its end. -/
def CanEnd (wasm : PageWasm) (s : Page) (p : ℕ) : Prop :=
  ∃ es s' run, Run (step wasm) s es s' ∧ s'.proofs p = some run ∧
    ∃ result, run.phase = .done result

theorem CanEnd.of_step {e : PageStep} (hs : s.step wasm e = some s') (h : CanEnd wasm s' p) :
    CanEnd wasm s p := by
  obtain ⟨es, s₁, run, hrun, hp, hdone⟩ := h
  exact ⟨_, s₁, run, (Run.one hs).trans hrun, hp, hdone⟩

/-- A proof that has finished has ended. -/
theorem canEnd_finish (result : Except String Snip36ProofBundle) :
    CanEnd wasm (s.finish p run result) p :=
  ⟨[], _, _, .nil, Function.update_self .., result, rfl⟩

/-- The worker of a proof is settled, or its timer can fire. -/
theorem Sound.settled_or (h : Sound wasm es s) {i : ℕ} {request : WorkerRequest}
    (hawaits : s.Awaits i request) :
    (∃ r, s.outcome i = some r) ∨
      ∃ s', s.step wasm (.exchange i .timesOut) = some s' ∧
        s'.outcome i = some (.error Exchange.timeoutText) ∧ s'.proofs = s.proofs := by
  obtain ⟨x, hx, -⟩ := hawaits
  have houtcome : s.outcome i = x.outcome := by rw [outcome, hx]; rfl
  cases hr : x.outcome with
  | some r => exact .inl ⟨r, houtcome.trans hr⟩
  | none =>
      have htimer : x.timer = true := by rw [(h.exchanges i x hx).2.timer, hr]; rfl
      have hstep : x.step wasm.toWorkerWasm i .timesOut
          = some (x.settle (.error Exchange.timeoutText)) := by
        rw [Exchange.step, if_pos htimer]
      have hs : s.step wasm (.exchange i .timesOut) = some { s with
          exchanges := Function.update s.exchanges i
            (some (x.settle (.error Exchange.timeoutText))) } := by
        simp only [step, hx, hstep, Option.map_some]
      refine .inr ⟨_, hs, ?_, rfl⟩
      simp only [outcome, Function.update_self, Option.bind_some, Exchange.settle, hr]
      rfl

theorem canEnd_of_error {i : ℕ} {e : String} (hp : s.proofs p = some run)
    (hphase : (∃ artifact, run.phase = .executing artifact i) ∨ run.phase = .proving i)
    (hr : s.outcome i = some (.error e)) : CanEnd wasm s p := by
  obtain ⟨input, phase, workers⟩ := run
  have hs : s.step wasm (.continues p) = some (s.finish p ⟨input, phase, workers⟩ (.error e)) := by
    rcases hphase with ⟨artifact, rfl⟩ | rfl <;> simp only [step, hp, hr]
  exact .of_step hs (canEnd_finish _)

theorem canEnd_of_proving (h : Sound wasm es s) {i : ℕ} (hp : s.proofs p = some run)
    (hphase : run.phase = .proving i) : CanEnd wasm s p := by
  obtain ⟨input, phase, workers⟩ := run
  obtain rfl := hphase
  obtain ⟨artifact, i₀, payload, -, -, -, -, hawaits⟩ := (h.proofs p _ hp).2
  rcases h.settled_or hawaits with ⟨r, hr⟩ | ⟨s', hs, hr, hproofs⟩
  · cases r with
    | error e => exact canEnd_of_error hp (.inr rfl) hr
    | ok value =>
        have hhandle := (h.settles hawaits hr).handle_eq
        rw [handle_proveArtifact] at hhandle
        obtain ⟨bundle, -, rfl⟩ := map_eq_ok.mp hhandle
        have hs : s.step wasm (.continues p)
            = some (s.finish p ⟨input, .proving i, workers⟩ (.ok bundle)) := by
          simp only [step, hp, hr]
        exact .of_step hs (canEnd_finish _)
  · exact .of_step hs (canEnd_of_error (hproofs ▸ hp) (.inr rfl) hr)

theorem canEnd_of_executing (h : Sound wasm es s) {artifact : Snip36ProofArtifact} {i : ℕ}
    (hp : s.proofs p = some run) (hphase : run.phase = .executing artifact i) :
    CanEnd wasm s p := by
  obtain ⟨input, phase, workers⟩ := run
  obtain rfl := hphase
  obtain ⟨-, -, hawaits⟩ := (h.proofs p _ hp).2
  rcases h.settled_or hawaits with ⟨r, hr⟩ | ⟨s', hs, hr, hproofs⟩
  · cases r with
    | error e => exact canEnd_of_error hp (.inl ⟨_, rfl⟩) hr
    | ok value =>
        have hhandle := (h.settles hawaits hr).handle_eq
        rw [handle_generateRequest] at hhandle
        obtain ⟨payload, -, rfl⟩ := map_eq_ok.mp hhandle
        have hs : s.step wasm (.continues p)
            = some (s.runWorkerRequest p ⟨input, .executing artifact i, workers⟩
              (.proveArtifactInBrowser (executedArtifact wasm artifact payload)) .proving) := by
          simp only [step, hp, hr]
        exact .of_step hs (canEnd_of_proving (sound_step h hs) (Function.update_self ..) rfl)
  · exact .of_step hs (canEnd_of_error (hproofs ▸ hp) (.inl ⟨_, rfl⟩) hr)

/-- **A proof can come to its end** whatever its node and its workers do: the timers see to it. -/
theorem canEnd_of_sound (h : Sound wasm es s) (hp : s.proofs p = some run) : CanEnd wasm s p := by
  cases hphase : run.phase with
  | done result => exact ⟨[], s, run, .nil, hp, result, hphase⟩
  | proving i => exact canEnd_of_proving h hp hphase
  | executing artifact i => exact canEnd_of_executing h hp hphase
  | fetchingBlock =>
      obtain ⟨input, phase, workers⟩ := run
      obtain rfl := hphase
      have hs : s.step wasm (.fetched p) = some (s.begin p ⟨input, .fetchingBlock, workers⟩
          (firstArtifact wasm p input)) := by
        simp only [step, hp]
      refine .of_step hs ?_
      have h' := sound_step h hs
      cases hfirst : firstArtifact wasm p input with
      | error e => exact canEnd_finish _
      | ok artifact =>
          rw [hfirst] at h'
          exact canEnd_of_executing h' (Function.update_self ..) rfl

end Page

/-- **A page makes the proofs that are asked of it.**  Whatever is under way beside a proof, its
bundle is the one that `proveSnip36InBrowser` makes by itself in the proof's own workers, and its
error is the program's or that of one of these workers that was disturbed. -/
theorem browserProofs_refine (hrun : Run (Page.step wasm) Page.new es s)
    (hp : s.proofs p = some run) :
    (∀ bundle, run.phase = .done (.ok bundle) →
        ∃ i i', run.workers = [i, i'] ∧ i ≠ i' ∧
          proveSnip36InBrowser wasm p i i' run.input = .ok bundle) ∧
      (∀ e, run.phase = .done (.error e) → Fails wasm es p run e) ∧
      (∀ p' run', s.proofs p' = some run' → ∀ i ∈ run.workers, i ∈ run'.workers → p' = p) ∧
      Page.CanEnd wasm s p := by
  have h := Page.sound_of_run hrun
  obtain ⟨-, hsound⟩ := h.proofs p run hp
  refine ⟨fun bundle hdone => ?_, fun e hdone => ?_, fun p' run' hp' i hi hi' => ?_,
    Page.canEnd_of_sound h hp⟩
  · rw [ProofRun.Sound, hdone] at hsound
    exact hsound
  · rw [ProofRun.Sound, hdone] at hsound
    exact hsound
  · exact h.apart p' p run' run hp' hp i hi' hi

/-! ### Two proofs at once -/

/-- Workers that work, and a node at the block 7. -/
def sampleWasm : PageWasm := { sampleWorkers with fetchLatestBlockNumber := fun _ => .ok 7 }

/-- A request at a block, or at the latest one. -/
def sampleRequest (blockNumber : Option (BitVec 64)) : Snip36ProveRequest where
  rpcUrl := "http://localhost:9545"
  blockNumber
  txJson := .obj [("type", .str "INVOKE")]
  chainId := "SN_SEPOLIA"
  strkFeeTokenAddress := "0x4718"

/-- The second proof makes the first worker, and the first proof's worker times out. -/
def twoProofs : List PageStep :=
  [.proves (sampleRequest none), .proves (sampleRequest (some 5)), .fetched 0,
    .exchange 0 .goesOn, .exchange 1 .goesOn, .exchange 0 .goesOn, .exchange 0 .goesOn,
    .exchange 1 .timesOut, .exchange 0 .goesOn, .exchange 0 .delivers, .continues 0,
    .continues 1, .exchange 2 .goesOn, .exchange 2 .goesOn, .exchange 2 .goesOn,
    .exchange 2 .delivers, .continues 1]

/-- Whether a proof ended with a bundle. -/
def ProofRun.succeeded (run : ProofRun) : Bool :=
  match run.phase with
  | .done (.ok _) => true
  | _ => false

theorem browserProofs_refine_twoProofs :
    ∃ s run bundle, Run (Page.step sampleWasm) Page.new twoProofs s ∧ s.proofs 1 = some run ∧
      run.phase = .done (.ok bundle) ∧
      ∃ i i', run.workers = [i, i'] ∧ i ≠ i' ∧
        proveSnip36InBrowser sampleWasm 1 i i' run.input = .ok bundle := by
  have h : ((runEvents (Page.step sampleWasm) Page.new twoProofs).bind (·.proofs 1)).any
      ProofRun.succeeded = true := by
    decide +kernel
  obtain ⟨run, hrun, hsucceeded⟩ := (Option.any_eq_true _ _).mp h
  obtain ⟨s, hs, hp⟩ := Option.bind_eq_some_iff.mp hrun
  have hdone : ∃ bundle, run.phase = .done (.ok bundle) := by
    simp only [ProofRun.succeeded] at hsucceeded
    split at hsucceeded
    · next bundle hphase => exact ⟨bundle, hphase⟩
    · cases hsucceeded
  obtain ⟨bundle, hphase⟩ := hdone
  have hreal := Run.of_runEvents hs
  exact ⟨s, run, bundle, hreal, hp, hphase, (browserProofs_refine hreal hp).1 bundle hphase⟩

end Snip36.Npm
