import Snip36.Artifacts.Worker
import Snip36.Support.IndexMap
import Snip36.Support.Runs

/-!
# Npm — requests to workers

`runWorkerRequest` makes a worker for one request, posts the request and settles a promise with
what comes first: a message of the worker, an error event, or the timer.  Then the worker is
terminated.  The worker loads the modules that the request needs, and an error of the handler is a
message too.

`workerRequest_settles`: a promise is settled once, and with what the handler makes of this very
request unless something went wrong that is among the events.
-/

namespace Snip36.Npm
open Support Artifacts

/-! ### Requests -/

/-- `WorkerRequest`. -/
inductive WorkerRequest where
  | normalizeArtifact (artifact : Snip36ProofArtifact)
  | generateExecutionPayloadInBrowser (config : Json) (blockNumber : BitVec 64)
      (transaction : Json)
  | proveArtifactInBrowser (artifact : Snip36ProofArtifact)
  | normalizeProofBundle (bundle : Snip36ProofBundle)
  | buildPayload (input : Json)
  | artifactToJson (artifact : Snip36ProofArtifact)
  | bundleToJson (bundle : Snip36ProofBundle)

/-- The kind and the value of a `WorkerResponse` that is ok. -/
inductive WorkerValue where
  | normalizeArtifact (value : Snip36ProofArtifact)
  | generateExecutionPayloadInBrowser (value : Json)
  | proveArtifactInBrowser (value : Snip36ProofBundle)
  | normalizeProofBundle (value : Snip36ProofBundle)
  | buildPayload (value : Json)
  | artifactToJson (value : String)
  | bundleToJson (value : String)

/-- `WorkerResponse`. -/
abbrev WorkerResponse := Except String WorkerValue

/-- The modules that a worker loads. -/
inductive WasmModule where
  | core
  | transactionProver
  | browserProver
  deriving DecidableEq

/-- The module that a request needs beside the core. -/
def WorkerRequest.wasmModule : WorkerRequest → Option WasmModule
  | .generateExecutionPayloadInBrowser .. => some .transactionProver
  | .proveArtifactInBrowser _ => some .browserProver
  | _ => none

/-- What the workers of a page call.  The `i`-th worker's modules load or fail, and its export has
its result. -/
structure WorkerWasm extends Browser where
  /-- A `load…Wasm` and the `init` of the module. -/
  load : ℕ → WasmModule → Except String Unit
  normalizeArtifact : Snip36ProofArtifact → Except String Snip36ProofArtifact
  normalizeProofBundle : Snip36ProofBundle → Except String Snip36ProofBundle
  buildSnip36Payload : Json → Except String Json
  artifactToJson : Snip36ProofArtifact → Except String String
  bundleToJson : Snip36ProofBundle → Except String String
  exportTransactionCairoPie : ℕ → Json → BitVec 64 → Json → Except String Json

/-- `{ ...base, [key]: value }`, of an object. -/
def withField (key : String) (value : Json) : Json → Json
  | .obj fields => .obj (upsert key value fields)
  | _ => .obj [(key, value)]

/-- `base?.[key] ?? {}`. -/
def fieldOrEmpty (key : String) (base : Json) : Json :=
  match base.field key with
  | none | some .null => .obj []
  | some value => value

/-- The executor's options of a config, as they are posted and as the worker changes them. -/
def mapExecutorConfig (change : Json → Json) (config : Json) : Json :=
  let runnerConfig := fieldOrEmpty "runner_config" config
  let executorConfig := fieldOrEmpty "virtual_block_executor_config" runnerConfig
  withField "runner_config"
    (withField "virtual_block_executor_config" (change executorConfig) runnerConfig) config

/-- The `config` of the worker. -/
def workerConfig (config : Json) : Json :=
  mapExecutorConfig (withField "prefetch_state" (.bool false)) config

/-- What the handler posts once the modules are loaded. -/
def WorkerWasm.finish (wasm : WorkerWasm) (i : ℕ) : WorkerRequest → WorkerResponse
  | .normalizeArtifact artifact => (wasm.normalizeArtifact artifact).map .normalizeArtifact
  | .generateExecutionPayloadInBrowser config blockNumber transaction =>
      (wasm.exportTransactionCairoPie i (workerConfig config) blockNumber transaction).map
        .generateExecutionPayloadInBrowser
  | .proveArtifactInBrowser artifact =>
      (Artifacts.proveArtifactInBrowser wasm.toBrowser artifact).map .proveArtifactInBrowser
  | .normalizeProofBundle bundle => (wasm.normalizeProofBundle bundle).map .normalizeProofBundle
  | .buildPayload input => (wasm.buildSnip36Payload input).map .buildPayload
  | .artifactToJson artifact => (wasm.artifactToJson artifact).map .artifactToJson
  | .bundleToJson bundle => (wasm.bundleToJson bundle).map .bundleToJson

/-- `self.onmessage`, from its start to its end. -/
def WorkerWasm.handle (wasm : WorkerWasm) (i : ℕ) (request : WorkerRequest) : WorkerResponse := do
  wasm.load i .core
  match request.wasmModule with
  | some m => wasm.load i m
  | none => pure ()
  wasm.finish i request

/-! ### A worker and its promise -/

/-- Where the handler of the worker is. -/
inductive WorkerPhase where
  | posted
  | loadingCore
  | loadingModule (m : WasmModule)
  | exporting
  | ended

/-- What comes to the page from a worker. -/
inductive PageEvent where
  | message (data : WorkerResponse)
  | error (message : String)

/-- A request: its worker, what is under way from it, and the promise. -/
structure Exchange where
  request : WorkerRequest
  phase : WorkerPhase
  inFlight : List PageEvent
  timer : Bool
  terminated : Bool
  outcome : Option WorkerResponse

/-- What happens to a request. -/
inductive ExchangeEvent where
  /-- The handler runs to its next `await`, or to its end. -/
  | goesOn
  /-- An error that no handler catches reaches the worker's own listeners. -/
  | runtimeError (message : String)
  | unhandledRejection (reason : String)
  /-- The worker fails as a whole. -/
  | crashes (message : String)
  | delivers
  | timesOut

namespace Exchange

/-- The worker is made, the timer set and the request posted. -/
def start (request : WorkerRequest) : Exchange where
  request
  phase := .posted
  inFlight := []
  timer := true
  terminated := false
  outcome := none

/-- `self.postMessage`. -/
def post (x : Exchange) (data : WorkerResponse) : Exchange :=
  { x with inFlight := x.inFlight ++ [.message data] }

/-- The handler posts its response and ends. -/
def respond (x : Exchange) (data : WorkerResponse) : Exchange :=
  { x.post data with phase := .ended }

/-- `self.onmessage`, to its next `await`. -/
def goOn (wasm : WorkerWasm) (i : ℕ) (x : Exchange) : Option Exchange :=
  match x.phase with
  | .posted => some { x with phase := .loadingCore }
  | .loadingCore =>
      match wasm.load i .core, x.request.wasmModule with
      | .error e, _ => some (x.respond (.error e))
      | .ok (), some m => some { x with phase := .loadingModule m }
      | .ok (), none => some (x.respond (wasm.finish i x.request))
  | .loadingModule m =>
      match wasm.load i m with
      | .error e => some (x.respond (.error e))
      | .ok () =>
          -- the export is awaited, `prove_cairo_pie` is not
          if m = .transactionProver then some { x with phase := .exporting }
          else some (x.respond (wasm.finish i x.request))
  | .exporting => some (x.respond (wasm.finish i x.request))
  | .ended => none

/-- The timer is cleared, the worker terminated with the messages under way, and the promise
settled, unless it is already. -/
def settle (x : Exchange) (r : WorkerResponse) : Exchange :=
  { x with
    inFlight := x.inFlight.filter fun
      | .message _ => false
      | .error _ => true
    timer := false
    terminated := true
    outcome := some (x.outcome.getD r) }

/-- `worker.onmessage` and `worker.onerror`. -/
def onPageEvent (x : Exchange) : PageEvent → Exchange
  | .message data => x.settle data
  | .error message => x.settle (.error (if message = "" then "worker crashed" else message))

/-- The text of a timeout after 90 seconds. -/
def timeoutText : String := "worker request timed out after 90s"

/-- What an event does to the request of the `i`-th worker. -/
def step (wasm : WorkerWasm) (i : ℕ) (x : Exchange) : ExchangeEvent → Option Exchange
  | .goesOn => if x.terminated then none else x.goOn wasm i
  | .runtimeError message =>
      if x.terminated then none
      else some (x.post (.error
        ("worker runtime error: " ++ if message = "" then "unknown" else message)))
  | .unhandledRejection reason =>
      if x.terminated then none
      else some (x.post (.error ("worker unhandled rejection: " ++ reason)))
  | .crashes message =>
      if x.terminated then none else some { x with inFlight := x.inFlight ++ [.error message] }
  | .delivers =>
      match x.inFlight with
      | [] => none
      | event :: rest => some ({ x with inFlight := rest }.onPageEvent event)
  | .timesOut => if x.timer then some (x.settle (.error timeoutText)) else none

end Exchange

/-! ### What settles a promise -/

/-- The response that an event of the page settles the promise with. -/
def PageEvent.response : PageEvent → WorkerResponse
  | .message data => data
  | .error text => .error (if text = "" then "worker crashed" else text)

/-- What went wrong among the events of a worker, with its text. -/
inductive Disturbs (es : List ExchangeEvent) : String → Prop where
  | runtimeError {message : String} (h : .runtimeError message ∈ es) :
      Disturbs es ("worker runtime error: " ++ if message = "" then "unknown" else message)
  | unhandledRejection {reason : String} (h : .unhandledRejection reason ∈ es) :
      Disturbs es ("worker unhandled rejection: " ++ reason)
  | crashed {message : String} (h : .crashes message ∈ es) :
      Disturbs es (if message = "" then "worker crashed" else message)
  | timedOut (h : .timesOut ∈ es) : Disturbs es Exchange.timeoutText

/-- What may settle the promise of a request: what the handler makes of it, or what went wrong. -/
def Settles (wasm : WorkerWasm) (i : ℕ) (request : WorkerRequest) (es : List ExchangeEvent)
    (r : WorkerResponse) : Prop :=
  r = wasm.handle i request ∨ ∃ e, r = .error e ∧ Disturbs es e

variable {wasm : WorkerWasm} {i : ℕ} {request : WorkerRequest} {es : List ExchangeEvent}

theorem Disturbs.append {event : ExchangeEvent} {e : String} (h : Disturbs es e) :
    Disturbs (es ++ [event]) e := by
  cases h with
  | runtimeError h => exact .runtimeError (List.mem_append_left _ h)
  | unhandledRejection h => exact .unhandledRejection (List.mem_append_left _ h)
  | crashed h => exact .crashed (List.mem_append_left _ h)
  | timedOut h => exact .timedOut (List.mem_append_left _ h)

theorem Settles.append {event : ExchangeEvent} {r : WorkerResponse}
    (h : Settles wasm i request es r) : Settles wasm i request (es ++ [event]) r := by
  rcases h with h | ⟨e, he, hdisturbs⟩
  · exact .inl h
  · exact .inr ⟨e, he, hdisturbs.append⟩

/-- A value is what the handler made. -/
theorem Settles.handle_eq {value : WorkerValue} (h : Settles wasm i request es (.ok value)) :
    wasm.handle i request = .ok value := by
  rcases h with h | ⟨e, he, -⟩
  · exact h.symm
  · cases he

namespace Exchange

variable {x x' : Exchange}

theorem onPageEvent_eq (x : Exchange) (event : PageEvent) :
    x.onPageEvent event = x.settle event.response := by
  cases event <;> rfl

/-- The modules that the handler has behind it are loaded. -/
def Ready (wasm : WorkerWasm) (i : ℕ) (x : Exchange) : Prop :=
  match x.phase with
  | .loadingModule m => wasm.load i .core = .ok () ∧ x.request.wasmModule = some m
  | .exporting => wasm.load i .core = .ok () ∧
      ∃ m, x.request.wasmModule = some m ∧ wasm.load i m = .ok ()
  | _ => True

/-- The handler goes on, or posts what it makes of the request. -/
theorem goOn_cases (hready : x.Ready wasm i) (h : x.goOn wasm i = some x') :
    (∃ phase, x' = { x with phase } ∧ x'.Ready wasm i) ∨
      x' = x.respond (wasm.handle i x.request) := by
  obtain ⟨request, phase, inFlight, timer, terminated, outcome⟩ := x
  cases phase with
  | posted =>
      obtain rfl := Option.some.inj h
      exact .inl ⟨_, rfl, trivial⟩
  | loadingCore =>
      simp only [goOn] at h
      cases hcore : wasm.load i .core with
      | error e =>
          simp only [hcore] at h
          obtain rfl := Option.some.inj h
          right
          simp only [WorkerWasm.handle, hcore]
          rfl
      | ok u =>
          cases hm : request.wasmModule with
          | some m =>
              simp only [hcore, hm] at h
              obtain rfl := Option.some.inj h
              exact .inl ⟨_, rfl, hcore, hm⟩
          | none =>
              simp only [hcore, hm] at h
              obtain rfl := Option.some.inj h
              right
              simp only [WorkerWasm.handle, hcore, hm]
              rfl
  | loadingModule m =>
      obtain ⟨hcore, hm⟩ := hready
      simp only at hm
      simp only [goOn] at h
      cases hload : wasm.load i m with
      | error e =>
          simp only [hload] at h
          obtain rfl := Option.some.inj h
          right
          simp only [WorkerWasm.handle, hcore, hm, hload]
          rfl
      | ok u =>
          simp only [hload] at h
          by_cases htx : m = .transactionProver
          · rw [if_pos htx] at h
            obtain rfl := Option.some.inj h
            exact .inl ⟨_, rfl, hcore, m, hm, hload⟩
          · rw [if_neg htx] at h
            obtain rfl := Option.some.inj h
            right
            simp only [WorkerWasm.handle, hcore, hm, hload]
            rfl
  | exporting =>
      obtain ⟨hcore, m, hm, hload⟩ := hready
      simp only at hm
      obtain rfl := Option.some.inj h
      right
      simp only [WorkerWasm.handle, hcore, hm, hload]
      rfl
  | ended => cases h

/-- What holds of a request at any time. -/
structure Sound (wasm : WorkerWasm) (i : ℕ) (request : WorkerRequest) (es : List ExchangeEvent)
    (x : Exchange) : Prop where
  own : x.request = request
  ready : x.Ready wasm i
  inFlight : ∀ event ∈ x.inFlight, Settles wasm i request es event.response
  outcome : ∀ r, x.outcome = some r → Settles wasm i request es r
  timer : x.timer = x.outcome.isNone
  terminated : x.terminated = x.outcome.isSome

theorem sound_start : Sound wasm i request es (start request) where
  own := rfl
  ready := trivial
  inFlight _ h := absurd h List.not_mem_nil
  outcome _ h := by cases h
  timer := rfl
  terminated := rfl

/-- One more event under way. -/
theorem Sound.arrives {e : ExchangeEvent} (h : Sound wasm i request es x) (event : PageEvent)
    (hevent : Settles wasm i request (es ++ [e]) event.response) :
    Sound wasm i request (es ++ [e]) { x with inFlight := x.inFlight ++ [event] } where
  own := h.own
  ready := h.ready
  inFlight event' hmem := by
    rcases List.mem_append.mp hmem with hmem | hmem
    · exact (h.inFlight event' hmem).append
    · obtain rfl := List.mem_singleton.mp hmem
      exact hevent
  outcome r hr := (h.outcome r hr).append
  timer := h.timer
  terminated := h.terminated

/-- The promise is settled. -/
theorem Sound.settle {e : ExchangeEvent} {r : WorkerResponse} (h : Sound wasm i request es x)
    (hr : Settles wasm i request (es ++ [e]) r) :
    Sound wasm i request (es ++ [e]) (x.settle r) where
  own := h.own
  ready := h.ready
  inFlight event hmem := (h.inFlight event (List.mem_of_mem_filter hmem)).append
  outcome r' hr' := by
    obtain rfl := Option.some.inj hr'
    cases hout : x.outcome with
    | none => exact hr
    | some r' => exact (h.outcome r' hout).append
  timer := rfl
  terminated := rfl

theorem sound_step {e : ExchangeEvent} (h : Sound wasm i request es x)
    (hs : step wasm i x e = some x') : Sound wasm i request (es ++ [e]) x' := by
  cases e with
  | goesOn =>
      simp only [step] at hs
      split at hs
      · cases hs
      rcases goOn_cases h.ready hs with ⟨phase, rfl, hready⟩ | rfl
      · exact ⟨h.own, hready, fun event hmem => (h.inFlight event hmem).append,
          fun r hr => (h.outcome r hr).append, h.timer, h.terminated⟩
      · have hpost := h.arrives (e := .goesOn) (.message (wasm.handle i x.request))
          (.inl (h.own ▸ rfl))
        exact ⟨hpost.own, trivial, hpost.inFlight, hpost.outcome, hpost.timer,
          hpost.terminated⟩
  | runtimeError message =>
      simp only [step] at hs
      split at hs
      · cases hs
      obtain rfl := Option.some.inj hs
      exact h.arrives _
        (.inr ⟨_, rfl, .runtimeError (List.mem_append_right _ List.mem_cons_self)⟩)
  | unhandledRejection reason =>
      simp only [step] at hs
      split at hs
      · cases hs
      obtain rfl := Option.some.inj hs
      exact h.arrives _
        (.inr ⟨_, rfl, .unhandledRejection (List.mem_append_right _ List.mem_cons_self)⟩)
  | crashes message =>
      simp only [step] at hs
      split at hs
      · cases hs
      obtain rfl := Option.some.inj hs
      exact h.arrives _
        (.inr ⟨_, rfl, .crashed (List.mem_append_right _ List.mem_cons_self)⟩)
  | delivers =>
      simp only [step] at hs
      split at hs
      · cases hs
      · rename_i event rest hflight
        obtain rfl := Option.some.inj hs
        rw [onPageEvent_eq]
        have hrest : Sound wasm i request es { x with inFlight := rest } :=
          ⟨h.own, h.ready, fun event' hmem => h.inFlight event'
            (hflight ▸ List.mem_cons_of_mem _ hmem), h.outcome, h.timer, h.terminated⟩
        exact hrest.settle (h.inFlight event (hflight ▸ List.mem_cons_self)).append
  | timesOut =>
      simp only [step] at hs
      split at hs
      · obtain rfl := Option.some.inj hs
        exact h.settle (.inr ⟨_, rfl, .timedOut (List.mem_append_right _ List.mem_cons_self)⟩)
      · cases hs

theorem sound_of_run (hrun : Run (step wasm i) (start request) es x) :
    Sound wasm i request es x :=
  hrun.history_induction sound_start fun _ _ _ _ => sound_step

/-- A settled promise stays as it is, and its worker has stopped. -/
theorem settled_step {e : ExchangeEvent} (hterminated : x.terminated = x.outcome.isSome)
    {r : WorkerResponse} (hr : x.outcome = some r) (hs : step wasm i x e = some x') :
    x'.outcome = some r ∧ x'.phase = x.phase ∧ x'.terminated = x'.outcome.isSome := by
  have hstopped : x.terminated = true := by rw [hterminated, hr]; rfl
  cases e with
  | delivers =>
      simp only [step] at hs
      split at hs
      · cases hs
      · obtain rfl := Option.some.inj hs
        rw [onPageEvent_eq, settle, hr]
        exact ⟨rfl, rfl, rfl⟩
  | timesOut =>
      simp only [step] at hs
      split at hs
      · obtain rfl := Option.some.inj hs
        rw [settle, hr]
        exact ⟨rfl, rfl, rfl⟩
      · cases hs
  | _ =>
      simp only [step, hstopped, if_true] at hs
      cases hs

theorem settled_run {es' : List ExchangeEvent}
    (hterminated : x.terminated = x.outcome.isSome) {r : WorkerResponse}
    (hr : x.outcome = some r) (hrun : Run (step wasm i) x es' x') :
    x'.outcome = some r ∧ x'.phase = x.phase := by
  have hall : x'.outcome = some r ∧ x'.phase = x.phase ∧ x'.terminated = x'.outcome.isSome := by
    refine hrun.invariant (P := fun x₁ => x₁.outcome = some r ∧ x₁.phase = x.phase ∧
      x₁.terminated = x₁.outcome.isSome) ⟨hr, rfl, hterminated⟩ ?_
    rintro x₁ e x₂ ⟨hr₁, hphase, hterm⟩ hs
    obtain ⟨hr₂, hphase₂, hterm₂⟩ := settled_step hterm hr₁ hs
    exact ⟨hr₂, hphase₂.trans hphase, hterm₂⟩
  exact ⟨hall.1, hall.2.1⟩

end Exchange

/-- **A request settles once, and by itself**: with what the handler makes of it or with what went
wrong.  From then on the timer is cleared, the worker has stopped and the promise stays; until
then the timer can settle it. -/
theorem workerRequest_settles {x : Exchange}
    (hrun : Run (Exchange.step wasm i) (Exchange.start request) es x) :
    (∀ r, x.outcome = some r → Settles wasm i request es r ∧ x.timer = false ∧
        x.terminated = true ∧
        ∀ es' x', Run (Exchange.step wasm i) x es' x' →
          x'.outcome = some r ∧ x'.phase = x.phase) ∧
      (x.outcome = none →
        ∃ x', Exchange.step wasm i x .timesOut = some x' ∧
          x'.outcome = some (.error Exchange.timeoutText)) := by
  have h := Exchange.sound_of_run hrun
  refine ⟨fun r hr => ⟨h.outcome r hr, ?_, ?_, fun es' x' hrun' => ?_⟩, fun hnone => ?_⟩
  · rw [h.timer, hr]
    rfl
  · rw [h.terminated, hr]
    rfl
  · exact Exchange.settled_run h.terminated hr hrun'
  · have htimer : x.timer = true := by rw [h.timer, hnone]; rfl
    refine ⟨x.settle (.error Exchange.timeoutText), ?_, ?_⟩
    · rw [Exchange.step, if_pos htimer]
    · rw [Exchange.settle, hnone]
      rfl

/-! ### A worker that crashes too late -/

/-- Workers that work, and an export that has the payload. -/
def sampleWorkers : WorkerWasm where
  toBrowser := browserOf carryingPayload sampleProved
  load _ _ := .ok ()
  normalizeArtifact := .ok
  normalizeProofBundle := .ok
  buildSnip36Payload := .ok
  artifactToJson _ := .ok "\x7b\x7d"
  bundleToJson _ := .ok "\x7b\x7d"
  exportTransactionCairoPie _ _ _ _ := .ok carryingPayload

/-- The worker has posted its response when it crashes. -/
def lateCrash : List ExchangeEvent := [.goesOn, .goesOn, .crashes "out of memory", .delivers]

theorem workerRequest_settles_lateCrash :
    ∃ x r, Run (Exchange.step sampleWorkers 0) (.start (.artifactToJson sampleArtifact)) lateCrash
        x ∧ x.outcome = some r ∧
      Settles sampleWorkers 0 (.artifactToJson sampleArtifact) lateCrash r ∧ x.timer = false ∧
      x.terminated = true := by
  have h : ((runEvents (Exchange.step sampleWorkers 0)
      (.start (.artifactToJson sampleArtifact)) lateCrash).bind (·.outcome)).isSome = true := rfl
  obtain ⟨r, hr⟩ := Option.isSome_iff_exists.mp h
  obtain ⟨x, hx, houtcome⟩ := Option.bind_eq_some_iff.mp hr
  have hrun := Run.of_runEvents hx
  obtain ⟨hsettles, htimer, hterminated, -⟩ := (workerRequest_settles hrun).1 r houtcome
  exact ⟨x, r, hrun, houtcome, hsettles, htimer, hterminated⟩

end Snip36.Npm
