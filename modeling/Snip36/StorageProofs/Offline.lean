import Snip36.StorageProofs.Records

/-!
# Storage proofs — tests offline

A test talks to a node, to a proxy that records the node's answers, or to a mock server that
replays a record file (`resolveTestMode`).  A recorded test leaves its record file when it is
finalised.

`offline_run`: run again offline, a recorded test can take the same steps and see the same replies,
whatever it makes its requests depend on and however they overlap.  The node has to answer what the
test sends, with status `200`, and the recorded requests of a call alike: the mock server knows
neither the status nor which of these requests a response was for.
-/

namespace Snip36.StorageProofs
open Support

/-! ### Tests and their setups -/

/-- What a test receives for a request. -/
inductive HttpReply where
  | json (status : ℕ) (body : JsonValue)
  | text (status : ℕ) (text : String)
  /-- The connection is closed without a reply. -/
  | closed

/-- What a test does and sees. -/
inductive TestAction where
  | sent (body : JsonValue)
  | received (request : JsonValue) (reply : HttpReply)

/-- `TestRpcSetup`. -/
inductive TestRpcSetup where
  | live
  | recording (proxy : RecordingProxy) (testName : String)
  | offline (server : MockRpcServer)

/-- `record_path`. -/
def recordPath (recordsDir testName : String) : String := recordsDir ++ "/" ++ testName ++ ".json"

/-- `resolve_test_mode`; `none` when the record file cannot be parsed. -/
def resolveTestMode (format : RecordsFormat) (recordsDir : String) (recordRpcRecords : Bool)
    (files : String → Option String) (testName : String) : Option TestRpcSetup :=
  if recordRpcRecords then some (.recording .new testName)
  else if (files (recordPath recordsDir testName)).isSome then
    (RpcRecords.load format files (recordPath recordsDir testName)).map fun records =>
      .offline (.new records)
  else some .live

/-- `TestRpcSetup::finalize`. -/
def TestRpcSetup.finalize (format : RecordsFormat) (recordsDir : String)
    (files : String → Option String) : TestRpcSetup → String → Option String
  | .recording proxy testName =>
      proxy.intoRecords.save format files (recordPath recordsDir testName)
  | .live | .offline _ => files

/-- The reply of the node. -/
def nodeReply (node : RecordedNode) (request : JsonValue) : HttpReply :=
  match node request with
  | some (status, body) => .json status body
  | none => .closed

/-- The reply of a mock server. -/
def MockReply.http : MockReply → HttpReply
  | .json body => .json 200 body
  | .notFound text => .text 404 text

/-- The reply of a setup, the proxy's being the node's. -/
def TestRpcSetup.reply (node : RecordedNode) (request : JsonValue) : TestRpcSetup → HttpReply
  | .live | .recording _ _ => nodeReply node request
  | .offline server => (server.handler request).http

/-- What a request or a response does to a setup. -/
def TestRpcSetup.step (node : RecordedNode) (event : ProxyEvent) :
    TestRpcSetup → Option TestRpcSetup
  | .recording proxy testName => (proxy.step node event).map (.recording · testName)
  | setup => some setup

/-- A test under way: its own state, the setup and the requests it waits for. -/
structure TestRun (σ : Type) where
  client : σ
  setup : TestRpcSetup
  inFlight : List JsonValue

/-- One step of a test: it sends a request, or the reply to one of those it waits for comes. -/
def TestRun.step {σ : Type} (node : RecordedNode) (client : σ → TestAction → Option σ)
    (t : TestRun σ) (event : ProxyEvent) : Option (TestRun σ) := do
  let setup ← t.setup.step node event
  match event with
  | .request body =>
      let client ← client t.client (.sent body)
      pure ⟨client, setup, t.inFlight ++ [body]⟩
  | .response index =>
      let request ← t.inFlight[index]?
      let client ← client t.client (.received request (t.setup.reply node request))
      pure ⟨client, setup, t.inFlight.eraseIdx index⟩

/-- The node answers the request with status `200`. -/
def AnswersOk (node : RecordedNode) (request : JsonValue) : Prop :=
  ∃ response, node request = some (200, response)

/-! ### A recorded test -/

section Recorded

variable {σ : Type} {node : RecordedNode} {client : σ → TestAction → Option σ} {start : σ}
  {testName : String}

/-- The mock server replies to the request as the node does. -/
def Serves (node : RecordedNode) (server : MockRpcServer) (request : JsonValue) : Prop :=
  (server.handler request).http = nodeReply node request

/-- A recorded test after some events: it waits for what its proxy waits for, which it has sent,
and any mock server that serves what is recorded takes the test the same way. -/
structure Followed (node : RecordedNode) (client : σ → TestAction → Option σ) (start : σ)
    (testName : String) (events : List ProxyEvent) (t : TestRun σ) (proxy : RecordingProxy) :
    Prop where
  setup : t.setup = .recording proxy testName
  inFlight : t.inFlight = proxy.inFlight
  sent : ∀ request ∈ t.inFlight, .request request ∈ events
  recorded : ∀ request ∈ proxy.recorded, .request request ∈ events
  kept : proxy.Kept node
  offline : ∀ server, (∀ request ∈ proxy.recorded, Serves node server request) →
    ∀ node', Run (TestRun.step node' client) ⟨start, .offline server, []⟩ events
      ⟨t.client, .offline server, t.inFlight⟩

theorem followed_start : Followed node client start testName [] ⟨start, .recording .new testName, []⟩
    .new where
  setup := rfl
  inFlight := rfl
  sent _ hrequest := absurd hrequest List.not_mem_nil
  recorded _ hrequest := absurd hrequest List.not_mem_nil
  kept := rfl
  offline _ _ _ := .nil

/-- A test that sends a request sends it offline too. -/
theorem Followed.request {events : List ProxyEvent} {t t' : TestRun σ} {proxy : RecordingProxy}
    {body : JsonValue} (h : Followed node client start testName events t proxy)
    (hs : t.step node client (.request body) = some t') :
    ∃ proxy', Followed node client start testName (events ++ [.request body]) t' proxy' := by
  obtain ⟨setup, hsetup, hs⟩ := Option.bind_eq_some_iff.mp hs
  obtain ⟨c, hc, hs⟩ := Option.bind_eq_some_iff.mp hs
  obtain rfl := Option.some.inj hs
  rw [h.setup] at hsetup
  obtain rfl := Option.some.inj hsetup
  refine ⟨{ proxy with inFlight := proxy.inFlight ++ [body] }, rfl, by rw [h.inFlight], ?_,
    fun r hr => List.mem_append_left _ (h.recorded r hr), h.kept, ?_⟩
  · intro request hrequest
    rcases List.mem_append.mp hrequest with hold | hnew
    · exact List.mem_append_left _ (h.sent request hold)
    · obtain rfl := List.mem_singleton.mp hnew
      exact List.mem_append_right _ (List.mem_singleton_self _)
  · intro server hserves node'
    refine .snoc (h.offline server hserves node') ?_
    exact Option.bind_eq_some_iff.mpr ⟨c, hc, rfl⟩

/-- A reply that a test receives is the one it receives offline. -/
theorem Followed.response {events : List ProxyEvent} {t t' : TestRun σ} {proxy : RecordingProxy}
    {index : ℕ} (h : Followed node client start testName events t proxy)
    (hok : ∀ body, .request body ∈ events → AnswersOk node body)
    (hs : t.step node client (.response index) = some t') :
    ∃ proxy', Followed node client start testName (events ++ [.response index]) t' proxy' := by
  obtain ⟨setup, hsetup, hs⟩ := Option.bind_eq_some_iff.mp hs
  obtain ⟨request, hrequest, hs⟩ := Option.bind_eq_some_iff.mp hs
  obtain ⟨c, hc, hs⟩ := Option.bind_eq_some_iff.mp hs
  obtain rfl := Option.some.inj hs
  obtain ⟨response, hnode⟩ := hok request (h.sent request (List.mem_of_getElem? hrequest))
  rw [h.setup] at hsetup hc
  obtain ⟨proxy', hproxy, rfl⟩ := Option.map_eq_some_iff.mp hsetup
  have hkept := h.kept.step hproxy
  rw [RecordingProxy.step, ← h.inFlight, hrequest, Option.bind_eq_bind, Option.bind_some,
    hnode] at hproxy
  obtain rfl := Option.some.inj hproxy
  refine ⟨_, rfl, rfl, ?_, ?_, hkept, ?_⟩
  · intro r hr
    exact List.mem_append_left _ (h.sent r (List.mem_of_mem_eraseIdx hr))
  · intro r hr
    rcases List.mem_append.mp hr with hold | hnew
    · exact List.mem_append_left _ (h.recorded r hold)
    · obtain rfl := List.mem_singleton.mp hnew
      exact List.mem_append_left _ (h.sent r (List.mem_of_getElem? hrequest))
  · intro server hserves node'
    have hserved : Serves node server request :=
      hserves request (List.mem_append_right _ (List.mem_singleton_self _))
    refine .snoc (h.offline server (fun r hr => hserves r (List.mem_append_left _ hr)) node') ?_
    rw [TestRpcSetup.reply, ← hserved] at hc
    exact Option.bind_eq_some_iff.mpr ⟨request, hrequest,
      Option.bind_eq_some_iff.mpr ⟨c, hc, rfl⟩⟩

/-- **A recorded test can be followed offline**, by any server that serves what is recorded. -/
theorem exists_followed {events : List ProxyEvent} {t : TestRun σ}
    (hrun : Run (TestRun.step node client) ⟨start, .recording .new testName, []⟩ events t)
    (hok : ∀ body, .request body ∈ events → AnswersOk node body) :
    ∃ proxy, Followed node client start testName events t proxy := by
  induction hrun with
  | nil => exact ⟨_, followed_start⟩
  | @snoc events event t t' _ hs ih =>
      have hok' : ∀ body, .request body ∈ events → AnswersOk node body := fun body hbody =>
        hok body (List.mem_append_left _ hbody)
      obtain ⟨proxy, h⟩ := ih hok'
      cases event with
      | request body => exact h.request hs
      | response index => exact h.response hok' hs

end Recorded

/-! ### Offline -/

/-- A test that keeps what it does and sees. -/
def loggingTest (log : List TestAction) (action : TestAction) : Option (List TestAction) :=
  some (log ++ [action])

/-- One call, sent twice before the first response. -/
def overlappingCalls : List ProxyEvent :=
  [.request (sampleCall "0x1" "0x2"), .request (sampleCall "0x1" "0x2"), .response 1, .response 0]

/-- The proxy after these calls. -/
def overlappingProxy : RecordingProxy where
  interactions := [.of (sampleCall "0x1" "0x2") (sampleAnswer "0x1" "0x2"),
    .of (sampleCall "0x1" "0x2") (sampleAnswer "0x1" "0x2")]
  inFlight := []
  recorded := [sampleCall "0x1" "0x2", sampleCall "0x1" "0x2"]

/-- The test after these calls. -/
def overlappingTest : TestRun (List TestAction) where
  client := [.sent (sampleCall "0x1" "0x2"), .sent (sampleCall "0x1" "0x2"),
    .received (sampleCall "0x1" "0x2") (.json 200 (sampleAnswer "0x1" "0x2")),
    .received (sampleCall "0x1" "0x2") (.json 200 (sampleAnswer "0x1" "0x2"))]
  setup := .recording overlappingProxy "test_prove"
  inFlight := []

theorem eq_of_mem_overlappingCalls {body : JsonValue} (h : .request body ∈ overlappingCalls) :
    body = sampleCall "0x1" "0x2" := by
  simpa [overlappingCalls] using h

end Snip36.StorageProofs
