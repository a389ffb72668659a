import Snip36.StorageProofs.LookupKeys
import Snip36.Support.Runs

/-!
# Storage proofs — recorded requests

A proxy records the requests it forwards to a node, and a mock server answers from the records.  The
requests are handled side by side: the proxy records each when its response comes.  The mock server
looks a request up by its method and its normalised parameters.

`replays_last`: a recorded request is answered as the node answered the last recorded one of the
same method and of the same parameters, up to the order of arrays.  `not_replays_own` has two calls
whose calldata differ in their order: one of them is answered with the response to the other.
-/

namespace Snip36.StorageProofs
open Support

/-! ### Records -/

/-- `RpcInteraction`. -/
structure RpcInteraction where
  method : String
  sortedParams : JsonValue
  response : JsonValue

/-- `RpcRecords`. -/
structure RpcRecords where
  interactions : List RpcInteraction

/-- How records are written to a file and read back: `serde_json`. -/
structure RecordsFormat where
  toStringPretty : RpcRecords → String
  fromStr : String → Option RpcRecords

/-- `RpcRecords::save`, to a disk that takes the file. -/
def RpcRecords.save (format : RecordsFormat) (records : RpcRecords)
    (files : String → Option String) (path : String) : String → Option String :=
  Function.update files path (some (format.toStringPretty records))

/-- `RpcRecords::load`; `none` when it panics. -/
def RpcRecords.load (format : RecordsFormat) (files : String → Option String) (path : String) :
    Option RpcRecords :=
  (files path).bind format.fromStr

/-- A field of a value, where it has one. -/
def JsonValue.getD (key : String) (default value : JsonValue) : JsonValue :=
  ⟨(value.val.field key).getD default.val, by
    cases hfield : value.val.field key with
    | none => exact default.property
    | some v => exact value.property.of_field hfield⟩

/-- The method of a request. -/
def requestMethod (request : JsonValue) : String :=
  ((request.val.field "method").bind Json.text).getD "unknown"

/-- The parameters of a request. -/
def requestParams (request : JsonValue) : JsonValue :=
  JsonValue.getD "params" ⟨.null, .null⟩ request

/-! ### The recording proxy -/

/-- What a node answers to a request: the HTTP status and the body; `none` when it cannot be reached
or the body is not JSON. -/
abbrev RecordedNode := JsonValue → Option (ℕ × JsonValue)

/-- A node whose response is a function of the method and the parameters. -/
def methodNode (respond : String → JsonValue → Option (ℕ × JsonValue)) : RecordedNode :=
  fun request => respond (requestMethod request) (requestParams request)

/-- What is recorded of a request. -/
def RpcInteraction.of (request response : JsonValue) : RpcInteraction where
  method := requestMethod request
  sortedParams := ⟨normalizeJson (requestParams request).val,
    isValue_normalizeJson (requestParams request).property⟩
  response := response

/-- A recording proxy: what it has recorded, the requests whose responses it waits for, and, for the
statements, the requests it has recorded. -/
structure RecordingProxy where
  interactions : List RpcInteraction
  inFlight : List JsonValue
  recorded : List JsonValue

/-- `RecordingProxy::new`. -/
def RecordingProxy.new : RecordingProxy := ⟨[], [], []⟩

/-- A request comes, or the node responds to one of those in flight. -/
inductive ProxyEvent where
  | request (body : JsonValue)
  | response (index : ℕ)

/-- `RecordingProxy::handler`: the request is forwarded, and recorded when the response comes.  A
handler whose request fails panics. -/
def RecordingProxy.step (node : RecordedNode) (proxy : RecordingProxy) :
    ProxyEvent → Option RecordingProxy
  | .request body => some { proxy with inFlight := proxy.inFlight ++ [body] }
  | .response index => do
      let request ← proxy.inFlight[index]?
      let inFlight := proxy.inFlight.eraseIdx index
      match node request with
      | none => some { proxy with inFlight }
      | some (_, response) =>
          some
            { interactions := proxy.interactions ++ [.of request response]
              inFlight
              recorded := proxy.recorded ++ [request] }

/-- `RecordingProxy::into_records`. -/
def RecordingProxy.intoRecords (proxy : RecordingProxy) : RpcRecords := ⟨proxy.interactions⟩

/-! ### The mock server -/

/-- `MockRpcServer`. -/
structure MockRpcServer where
  lookup : IndexMap String JsonValue

/-- `MockRpcServer::new`. -/
def MockRpcServer.new (records : RpcRecords) : MockRpcServer where
  lookup := records.interactions.foldl
    (fun lookup interaction =>
      lookup.insert (makeLookupKey interaction.method interaction.sortedParams.val)
        interaction.response)
    .empty

/-- What the mock server replies. -/
inductive MockReply where
  | json (body : JsonValue)
  | notFound (text : String)

/-- `MockRpcServer::handler`. -/
def MockRpcServer.handler (server : MockRpcServer) (request : JsonValue) : MockReply :=
  match server.lookup.get
      (makeLookupKey (requestMethod request) (requestParams request).val) with
  | some response => .json response
  | none => .notFound "No matching recorded interaction"

/-! ### Replaying -/

/-- The two requests have the same method, and the same parameters up to the order of arrays. -/
def SameCall (request request' : JsonValue) : Prop :=
  requestMethod request = requestMethod request' ∧
    Reordered (requestParams request).val (requestParams request').val

/-- Every recorded request is answered as the node answered it. -/
def ReplaysOwn (node : RecordedNode) (recorded : List JsonValue) (server : MockRpcServer) : Prop :=
  ∀ request ∈ recorded, ∃ status response,
    node request = some (status, response) ∧ server.handler request = .json response

/-- Every recorded request is answered as the node answered the last recorded one of the same method
and of the same parameters, up to the order of arrays. -/
def ReplaysLast (node : RecordedNode) (recorded : List JsonValue) (server : MockRpcServer) : Prop :=
  ∀ request ∈ recorded, ∃ before last after status response,
    recorded = before ++ last :: after ∧ SameCall request last ∧
      (∀ later ∈ after, ¬ SameCall request later) ∧
      node last = some (status, response) ∧ server.handler request = .json response

/-- The node gives one body to the recorded requests of a call. -/
def AnswersAlike (node : RecordedNode) (recorded : List JsonValue) : Prop :=
  ∀ request ∈ recorded, ∀ request' ∈ recorded, SameCall request request' →
    (node request).map Prod.snd = (node request').map Prod.snd

/-! ### What is recorded -/

/-- What a node's response to a request is recorded as. -/
def recordOf (node : RecordedNode) (request : JsonValue) : Option RpcInteraction :=
  (node request).map fun answer => .of request answer.2

/-- The interactions are those of the recorded requests. -/
def RecordingProxy.Kept (node : RecordedNode) (proxy : RecordingProxy) : Prop :=
  proxy.recorded.map (recordOf node) = proxy.interactions.map some

theorem RecordingProxy.Kept.step {node : RecordedNode} {proxy proxy' : RecordingProxy}
    {event : ProxyEvent} (h : proxy.Kept node) (hstep : proxy.step node event = some proxy') :
    proxy'.Kept node := by
  cases event with
  | request body =>
      obtain rfl := Option.some.inj hstep
      exact h
  | response index =>
      obtain ⟨request, -, hanswer⟩ := Option.bind_eq_some_iff.mp hstep
      cases hnode : node request with
      | none =>
          simp only [hnode] at hanswer
          obtain rfl := Option.some.inj hanswer
          exact h
      | some answer =>
          simp only [hnode] at hanswer
          obtain rfl := Option.some.inj hanswer
          rw [Kept] at h ⊢
          rw [List.map_append, List.map_append, h, List.map_singleton, List.map_singleton,
            recordOf, hnode]
          rfl

theorem RecordingProxy.kept {node : RecordedNode} {proxy : RecordingProxy}
    {events : List ProxyEvent} (h : Run (RecordingProxy.step node) .new events proxy) :
    proxy.Kept node :=
  h.invariant (P := RecordingProxy.Kept node) rfl fun _ _ _ hkept hstep => hkept.step hstep

/-! ### What is looked up -/

/-- The key of a record is the one its request is looked up by. -/
theorem makeLookupKey_of (request response : JsonValue) :
    makeLookupKey (RpcInteraction.of request response).method
        (RpcInteraction.of request response).sortedParams.val
      = makeLookupKey (requestMethod request) (requestParams request).val := by
  rw [makeLookupKey, makeLookupKey]
  exact congrArg (fun v : Json => requestMethod request ++ ":" ++ v.compact)
    (normalizeJson_normalizeJson (requestParams request).property)

theorem MockRpcServer.lookup_new (records : RpcRecords) :
    (MockRpcServer.new records).lookup = .ofList (records.interactions.map fun interaction =>
      (makeLookupKey interaction.method interaction.sortedParams.val, interaction.response)) := by
  rw [MockRpcServer.new, IndexMap.ofList, IndexMap.extend, List.foldl_map]

/-- Two requests have one key exactly when they are the same call. -/
theorem sameCall_iff {request request' : JsonValue} :
    SameCall request request' ↔
      makeLookupKey (requestMethod request) (requestParams request).val
        = makeLookupKey (requestMethod request') (requestParams request').val :=
  (makeLookupKey_eq_iff (requestParams request).property (requestParams request').property).symm

theorem MockRpcServer.handler_of_get {server : MockRpcServer} {request response : JsonValue}
    (h : server.lookup.get (makeLookupKey (requestMethod request) (requestParams request).val)
      = some response) : server.handler request = .json response := by
  rw [handler, h]

/-- The records of a proxy are replayed: the last of a call stands. -/
theorem RecordingProxy.Kept.replaysLast {node : RecordedNode} {proxy : RecordingProxy}
    (h : proxy.Kept node) :
    ReplaysLast node proxy.recorded (.new proxy.intoRecords) := by
  intro request hrequest
  set key := makeLookupKey (requestMethod request) (requestParams request).val with hkey
  have hkeyOf : ∀ {r : JsonValue} {interaction : RpcInteraction},
      recordOf node r = some interaction →
        ∃ status response, node r = some (status, response) ∧ interaction = .of r response ∧
          makeLookupKey interaction.method interaction.sortedParams.val
            = makeLookupKey (requestMethod r) (requestParams r).val := by
    intro r interaction hr
    obtain ⟨⟨status, response⟩, hnode, rfl⟩ := Option.map_eq_some_iff.mp hr
    exact ⟨status, response, hnode, rfl, makeLookupKey_of r response⟩
  -- the request's own record has its key
  have hmem : key ∈ (proxy.interactions.map fun interaction =>
      (makeLookupKey interaction.method interaction.sortedParams.val,
        interaction.response)).map Prod.fst := by
    have hown := List.mem_map_of_mem (f := recordOf node) hrequest
    rw [h] at hown
    obtain ⟨interaction, hinteraction, hown⟩ := List.mem_map.mp hown
    obtain ⟨_, _, -, -, hsame⟩ := hkeyOf hown.symm
    rw [List.map_map]
    exact List.mem_map.mpr ⟨interaction, hinteraction, hsame⟩
  obtain ⟨response, hget⟩ := IndexMap.exists_get_ofList hmem
  obtain ⟨before, after, hsplit, hafter⟩ := IndexMap.exists_last_of_get_ofList hget
  obtain ⟨before, rest, hinteractions, -, hrest⟩ := List.map_eq_append_iff.mp hsplit
  obtain ⟨interaction, after, rfl, hlast, rfl⟩ := List.map_eq_cons_iff.mp hrest
  rw [Kept, hinteractions, List.map_append, List.map_cons] at h
  obtain ⟨before', rest', hrecorded, -, hrest'⟩ := List.map_eq_append_iff.mp h
  obtain ⟨last, after', rfl, hlast', hafter'⟩ := List.map_eq_cons_iff.mp hrest'
  obtain ⟨status, response', hnode, rfl, hsame⟩ := hkeyOf hlast'
  obtain ⟨hlastKey, rfl⟩ := Prod.mk.inj hlast
  refine ⟨before', last, after', status, _, hrecorded, ?_, fun later hlater hcall => ?_, hnode, ?_⟩
  · rw [sameCall_iff, ← hkey, ← hlastKey, hsame]
  · -- a later record of the call would have its key
    have hrecord := List.mem_map_of_mem (f := recordOf node) hlater
    rw [hafter'] at hrecord
    obtain ⟨interaction, hinteraction, hrecord⟩ := List.mem_map.mp hrecord
    obtain ⟨_, _, -, -, hsame'⟩ := hkeyOf hrecord.symm
    have hne := hafter _ (List.mem_map_of_mem hinteraction)
    exact hne (hsame'.trans (sameCall_iff.mp hcall).symm)
  · refine MockRpcServer.handler_of_get ?_
    rw [MockRpcServer.lookup_new]
    exact hget

theorem load_save {format : RecordsFormat} {records : RpcRecords}
    (h : format.fromStr (format.toStringPretty records) = some records)
    (files : String → Option String) (path : String) :
    RpcRecords.load format (records.save format files path) path = some records := by
  rw [RpcRecords.load, RpcRecords.save, Function.update_self, Option.bind_some, h]

/-- **Replaying a recording.**  A recorded request is answered as the node answered the last recorded
one of its call, so as the node answered it when the node answers the recorded requests of a call
alike. -/
theorem replays_last (node : RecordedNode) (format : RecordsFormat)
    (files : String → Option String) (path : String) {events : List ProxyEvent}
    {proxy : RecordingProxy} (hrun : Run (RecordingProxy.step node) .new events proxy)
    (hformat : format.fromStr (format.toStringPretty proxy.intoRecords)
      = some proxy.intoRecords) :
    ∃ records, RpcRecords.load format (proxy.intoRecords.save format files path) path
        = some records ∧
      ReplaysLast node proxy.recorded (.new records) ∧
      (AnswersAlike node proxy.recorded → ReplaysOwn node proxy.recorded (.new records)) := by
  have hlast := (RecordingProxy.kept hrun).replaysLast
  refine ⟨proxy.intoRecords, ?_, hlast, fun halike request hrequest => ?_⟩
  · exact load_save hformat files path
  · obtain ⟨before, last, after, status, response, hrecorded, hcall, -, hnode, hreply⟩ :=
      hlast request hrequest
    have hmem : last ∈ proxy.recorded := by
      rw [hrecorded]
      simp
    have hsame := halike request hrequest last hmem hcall
    rw [hnode] at hsame
    obtain ⟨⟨status', response'⟩, hown, hresponse⟩ := Option.map_eq_some_iff.mp hsame
    obtain rfl : response' = response := hresponse
    exact ⟨status', response', hown, hreply⟩

/-! ### Two calls -/

/-- A call of a contract with two words of calldata. -/
def sampleCall (word word' : String) : JsonValue where
  val := .obj [("id", .num 1), ("jsonrpc", .str "2.0"), ("method", .str "starknet_call"),
    ("params", .arr [.arr [.str word, .str word'], .str "latest"])]
  property := by
    have hkeys : ["id", "jsonrpc", "method", "params"].Pairwise (· < ·) := by decide +kernel
    have hwords : (Json.arr [.str word, .str word']).IsValue :=
      .arr (by simp [Json.IsValue.str])
    refine .obj hkeys fun f hf => ?_
    simp only [List.mem_cons, List.not_mem_nil, or_false] at hf
    rcases hf with rfl | rfl | rfl | rfl
    · exact .num 1
    · exact .str "2.0"
    · exact .str "starknet_call"
    · exact .arr (by simp [Json.IsValue.str, hwords])

/-- A response. -/
def sampleResponse (result : JsonValue) : JsonValue where
  val := .obj [("id", .num 1), ("jsonrpc", .str "2.0"), ("result", result.val)]
  property := by
    have hkeys : ["id", "jsonrpc", "result"].Pairwise (· < ·) := by decide +kernel
    refine .obj hkeys fun f hf => ?_
    simp only [List.mem_cons, List.not_mem_nil, or_false] at hf
    rcases hf with rfl | rfl | rfl
    · exact .num 1
    · exact .str "2.0"
    · exact result.property

/-- A node whose calls return their parameters. -/
def sampleRespond (_ : String) (params : JsonValue) : Option (ℕ × JsonValue) :=
  some (200, sampleResponse params)

/-- The two calls are answered the other way round. -/
def twoCalls : List ProxyEvent :=
  [.request (sampleCall "0x1" "0x2"), .request (sampleCall "0x2" "0x1"), .response 1, .response 0]

/-- The response to a call. -/
def sampleAnswer (word word' : String) : JsonValue :=
  sampleResponse (requestParams (sampleCall word word'))

/-- The proxy after the two calls. -/
def twoCallsProxy : RecordingProxy where
  interactions := [.of (sampleCall "0x2" "0x1") (sampleAnswer "0x2" "0x1"),
    .of (sampleCall "0x1" "0x2") (sampleAnswer "0x1" "0x2")]
  inFlight := []
  recorded := [sampleCall "0x2" "0x1", sampleCall "0x1" "0x2"]

/-- The lines of the record of a call in the file. -/
def sampleLines (word word' : String) : List String :=
  ["      \"method\": \"starknet_call\",", "      \"sorted_params\": [", "        \"latest\",",
    "        [", "          \"0x1\",", "          \"0x2\"", "        ]", "      ],",
    "      \"response\": \x7b", "        \"id\": 1,", "        \"jsonrpc\": \"2.0\",",
    "        \"result\": [", "          [", "            \"" ++ word ++ "\",",
    "            \"" ++ word' ++ "\"", "          ],", "          \"latest\"", "        ]",
    "      \x7d"]

/-- The file of the two calls. -/
def twoCallsFile : String :=
  "\n".intercalate
    (["\x7b", "  \"interactions\": [", "    \x7b"] ++ sampleLines "0x2" "0x1"
      ++ ["    \x7d,", "    \x7b"] ++ sampleLines "0x1" "0x2" ++ ["    \x7d", "  ]", "\x7d"])

/-- What is written of some records, and what is read back. -/
def oneFile (text : String) (records : RpcRecords) : RecordsFormat where
  toStringPretty := fun _ => text
  fromStr := fun text' => if text' = text then some records else none

theorem fromStr_oneFile (text : String) (records : RpcRecords) :
    (oneFile text records).fromStr ((oneFile text records).toStringPretty records)
      = some records :=
  if_pos rfl

/-- What is written of the two calls. -/
def twoCallsFormat : RecordsFormat := oneFile twoCallsFile twoCallsProxy.intoRecords

theorem run_twoCalls :
    Run (RecordingProxy.step (methodNode sampleRespond)) .new twoCalls twoCallsProxy :=
  Run.of_runEvents rfl

/-- The recording of the two calls is replayed. -/
theorem replays_last_twoCalls :
    ∃ records, RpcRecords.load twoCallsFormat
        (twoCallsProxy.intoRecords.save twoCallsFormat (fun _ => none) "recorded.json")
        "recorded.json" = some records ∧
      ReplaysLast (methodNode sampleRespond) twoCallsProxy.recorded (.new records) ∧
      (AnswersAlike (methodNode sampleRespond) twoCallsProxy.recorded →
        ReplaysOwn (methodNode sampleRespond) twoCallsProxy.recorded (.new records)) :=
  replays_last _ _ _ _ run_twoCalls (fromStr_oneFile _ _)

theorem sameCall_sampleCall : SameCall (sampleCall "0x2" "0x1") (sampleCall "0x1" "0x2") := by
  refine ⟨rfl, ?_⟩
  exact .elem [] [.str "latest"] (.perm (List.Perm.swap _ _ _))

/-- **The two calls are replayed alike**: the one with the calldata `0x2`, `0x1` is answered with the
response to the one with the calldata `0x1`, `0x2`. -/
theorem not_replays_own :
    Run (RecordingProxy.step (methodNode sampleRespond)) .new twoCalls twoCallsProxy ∧
      (twoCallsFormat.fromStr (twoCallsFormat.toStringPretty twoCallsProxy.intoRecords)
        = some twoCallsProxy.intoRecords) ∧
      ∃ records, RpcRecords.load twoCallsFormat
          (twoCallsProxy.intoRecords.save twoCallsFormat (fun _ => none) "recorded.json")
          "recorded.json" = some records ∧
        (MockRpcServer.new records).handler (sampleCall "0x2" "0x1")
          = .json (sampleAnswer "0x1" "0x2") ∧
        ¬ ReplaysOwn (methodNode sampleRespond) twoCallsProxy.recorded (.new records) := by
  have hformat := fromStr_oneFile twoCallsFile twoCallsProxy.intoRecords
  have hreply : (MockRpcServer.new twoCallsProxy.intoRecords).handler (sampleCall "0x2" "0x1")
      = .json (sampleAnswer "0x1" "0x2") := by
    refine MockRpcServer.handler_of_get ?_
    have hlast := makeLookupKey_of (sampleCall "0x1" "0x2") (sampleAnswer "0x1" "0x2")
    rw [sameCall_iff.mp sameCall_sampleCall, ← hlast, MockRpcServer.lookup_new, IndexMap.ofList,
      IndexMap.get_extend]
    simp only [twoCallsProxy, RecordingProxy.intoRecords, List.map_cons, List.map_nil,
      List.reverse_cons, List.reverse_nil, List.nil_append, List.singleton_append,
      List.lookup_cons_self, Option.some_or]
    rfl
  refine ⟨run_twoCalls, hformat, _, load_save hformat _ _, hreply, fun hown => ?_⟩
  obtain ⟨status, response, hnode, hreply'⟩ := hown (sampleCall "0x2" "0x1") List.mem_cons_self
  obtain rfl := MockReply.json.inj (hreply.symm.trans hreply')
  have hsame : sampleAnswer "0x2" "0x1" = sampleAnswer "0x1" "0x2" :=
    (Prod.mk.inj (Option.some.inj hnode)).2
  have hval := congrArg Subtype.val hsame
  simp [sampleAnswer, sampleResponse, requestParams, JsonValue.getD, sampleCall] at hval

end Snip36.StorageProofs
