import Snip36.Streams.Outcomes

/-!
# Artifacts — bundles

A proof artifact has a transaction, the block to prove against, and, once it is executed or proved,
an execution payload.  A bundle is an artifact with its proof.  `bundleFromResponse` makes one from
the response of a prover, and stores the result in the execution payload;
`bundleFromExecutionPayload` makes one from an artifact with such a payload.

* `rebuilt_of_response`: a bundle that was made from a response is made again from its artifact,
  and where the facts of a response cannot be read, they cannot be read from the artifact either.
-/

namespace Snip36.Artifacts
open Support

/-! ### Data -/

/-- `Snip36ProofArtifact`. -/
structure Snip36ProofArtifact where
  version : BitVec 32
  blockNumber : BitVec 64
  rpcUrl : String
  chainId : String
  strkFeeTokenAddress : String
  txHash : Option String
  transaction : Json
  executionPayload : Option String
  proofFactsPreimage : Option (List String)
  rawMessages : Option Json

/-- `Snip36ProofBundle`. -/
structure Snip36ProofBundle where
  artifact : Snip36ProofArtifact
  proofBase64 : Option String
  proofFacts : List String
  rawMessages : Option Json
  proofSize : Option ℕ

/-- The functions of `serde_json`, and the error of `from_value`, to a `Vec<String>`. -/
structure Serde extends Streams.SerdeJson where
  invalidStrings : Json → String

/-- `from_value`, to a `Vec<String>`. -/
def Serde.stringsFromValue (serde : Serde) (v : Json) : Except String (List String) :=
  okOr v.strings (serde.invalidStrings v)

/-- `json!({ "l2_to_l1_messages": messages })`. -/
def wrapMessages (messages : Json) : Json := .obj [("l2_to_l1_messages", messages)]

theorem wrapMessages_inj {m m' : Json} : wrapMessages m = wrapMessages m' ↔ m = m' := by
  simp [wrapMessages]

/-! ### The bundle of a result -/

/-- What both functions make of a result, when its facts are read. -/
def bundleOf (artifact : Snip36ProofArtifact) (result : Json) (proofFacts : List String) :
    Snip36ProofBundle :=
  let proofBase64 := (result.field "proof").bind Json.text
  let rawMessages := (result.field "l2_to_l1_messages").map wrapMessages
  { artifact := { artifact with
      proofFactsPreimage := if proofFacts.isEmpty then none else some proofFacts
      rawMessages }
    proofBase64
    proofFacts
    rawMessages
    proofSize := proofBase64.map String.utf8ByteSize }

/-- The errors of `bundle_from_response`. -/
inductive ResponseError where
  | emptyResult (proveResponse : Json)
  | proofFacts (e : String)

/-- The text of an error. -/
def ResponseError.toString (serde : Serde) : ResponseError → String
  | .emptyResult proveResponse =>
      "empty result from starknet_proveTransaction: " ++ serde.toString proveResponse
  | .proofFacts e => e

/-- The facts of a result, read from their text. -/
def responseFacts (serde : Serde) (result : Json) : Except ResponseError (List String) :=
  match result.field "proof_facts" with
  | some v =>
      (Streams.parseProofFactsJson serde.toSerdeJson (serde.toString v)).mapError .proofFacts
  | none => .ok []

/-- `bundle_from_response`. -/
def bundleFromResponse (serde : Serde) (artifact : Snip36ProofArtifact) (proveResponse : Json) :
    Except ResponseError Snip36ProofBundle := do
  let result ← okOr ((proveResponse.field "result").filter fun v => !v.isNull)
    (.emptyResult proveResponse)
  let proofFacts ← responseFacts serde result
  let executionPayload := some (serde.toString result)
  return bundleOf { artifact with executionPayload } result proofFacts

/-- The facts of a result, read from their value. -/
def payloadFacts (serde : Serde) (result : Json) : Except String (List String) :=
  match result.field "proof_facts" with
  | some v => (serde.stringsFromValue v).mapError fun e => "invalid proof_facts: " ++ e
  | none => .ok []

/-- `bundle_from_execution_payload`. -/
def bundleFromExecutionPayload (serde : Serde) (artifact : Snip36ProofArtifact) :
    Except String Snip36ProofBundle := do
  let payload ← okOr artifact.executionPayload "artifact.execution_payload is missing"
  let result ← (serde.fromStr payload).mapError fun e => "invalid execution payload json: " ++ e
  let proofFacts ← payloadFacts serde result
  return bundleOf artifact result proofFacts

/-! ### What they end with -/

theorem bundleFromResponse_eq_ok {serde : Serde} {artifact : Snip36ProofArtifact}
    {proveResponse : Json} {bundle : Snip36ProofBundle} :
    bundleFromResponse serde artifact proveResponse = .ok bundle ↔
      ∃ result, proveResponse.field "result" = some result ∧ result.isNull = false ∧
        ∃ facts, responseFacts serde result = .ok facts ∧
          bundleOf { artifact with executionPayload := some (serde.toString result) } result facts
            = bundle := by
  rw [bundleFromResponse, bind_eq_ok]
  constructor
  · rintro ⟨result, hresult, h⟩
    obtain ⟨facts, hfacts, h⟩ := bind_eq_ok.mp h
    obtain ⟨hsome, hnull⟩ := Option.filter_eq_some_iff.mp (okOr_eq_ok.mp hresult)
    exact ⟨result, hsome, by simpa using hnull, facts, hfacts, pure_eq_ok.mp h⟩
  · rintro ⟨result, hsome, hnull, facts, hfacts, h⟩
    have hresult : (proveResponse.field "result").filter (fun v => !v.isNull) = some result :=
      Option.filter_eq_some_iff.mpr ⟨hsome, by simpa using hnull⟩
    exact ⟨result, okOr_eq_ok.mpr hresult, bind_eq_ok.mpr ⟨facts, hfacts, pure_eq_ok.mpr h⟩⟩

theorem bundleFromExecutionPayload_eq_ok {serde : Serde} {artifact : Snip36ProofArtifact}
    {bundle : Snip36ProofBundle} :
    bundleFromExecutionPayload serde artifact = .ok bundle ↔
      ∃ payload, artifact.executionPayload = some payload ∧
        ∃ result, serde.fromStr payload = .ok result ∧
          ∃ facts, payloadFacts serde result = .ok facts ∧
            bundleOf artifact result facts = bundle := by
  rw [bundleFromExecutionPayload, bind_eq_ok]
  constructor
  · rintro ⟨payload, hpayload, h⟩
    obtain ⟨result, hresult, h⟩ := bind_eq_ok.mp h
    obtain ⟨facts, hfacts, h⟩ := bind_eq_ok.mp h
    exact ⟨payload, okOr_eq_ok.mp hpayload, result, mapError_eq_ok.mp hresult, facts, hfacts,
      pure_eq_ok.mp h⟩
  · rintro ⟨payload, hpayload, result, hresult, facts, hfacts, h⟩
    exact ⟨payload, okOr_eq_ok.mpr hpayload, bind_eq_ok.mpr ⟨result, mapError_eq_ok.mpr hresult,
      bind_eq_ok.mpr ⟨facts, hfacts, pure_eq_ok.mpr h⟩⟩⟩

theorem payloadFacts_eq_ok {serde : Serde} {result : Json} {facts : List String} :
    payloadFacts serde result = .ok facts ↔
      (∃ v, result.field "proof_facts" = some v ∧ v.strings = some facts) ∨
        result.field "proof_facts" = none ∧ facts = [] := by
  rw [payloadFacts]
  split
  · next v hv => simp [hv, mapError_eq_ok, Serde.stringsFromValue, okOr_eq_ok]
  · next hv => simp [hv, eq_comm]

/-! ### The same facts -/

/-- What is read from the text of the facts of a result is their value. -/
def ReadsFacts (serde : Serde) (result : Json) : Prop :=
  ∀ v, result.field "proof_facts" = some v →
    (serde.stringsFromStr (serde.toString v)).toOption = v.strings

/-- **The two readings of the facts agree.** -/
theorem responseFacts_iff_payloadFacts {serde : Serde} {result : Json} {facts : List String}
    (hread : ReadsFacts serde result) :
    responseFacts serde result = .ok facts ↔ payloadFacts serde result = .ok facts := by
  rw [payloadFacts_eq_ok, responseFacts]
  split
  · next v hv =>
      have hv' := hread v hv
      rw [mapError_eq_ok, Streams.parseProofFactsJson, mapError_eq_ok]
      cases hstrings : serde.stringsFromStr (serde.toString v) with
      | ok strings =>
          rw [hstrings] at hv'
          simp [hv, ← hv', Except.toOption]
      | error e =>
          rw [hstrings] at hv'
          simp [hv, ← hv', Except.toOption]
  · next hv => simp [hv, eq_comm]

/-- A response that fails because of its facts has facts that cannot be read. -/
theorem responseFacts_ne_ok {serde : Serde} {artifact : Snip36ProofArtifact}
    {proveResponse result : Json} {e : String}
    (hresult : proveResponse.field "result" = some result)
    (h : bundleFromResponse serde artifact proveResponse = .error (.proofFacts e))
    (facts : List String) : responseFacts serde result ≠ .ok facts := by
  intro hfacts
  cases hnull : result.isNull with
  | true =>
      have hnone : (proveResponse.field "result").filter (fun v => !v.isNull) = none := by
        simp [hresult, hnull, Option.filter]
      rw [bundleFromResponse, hnone] at h
      cases h
  | false =>
      have hok : bundleFromResponse serde artifact proveResponse = .ok _ :=
        bundleFromResponse_eq_ok.mpr ⟨result, hresult, hnull, facts, hfacts, rfl⟩
      rw [h] at hok
      cases hok

/-- **A bundle can be rebuilt from its own artifact**, and where the facts of a response cannot be
read, no artifact with its result as payload gives a bundle. -/
theorem rebuilt_of_response (serde : Serde) (artifact : Snip36ProofArtifact) (proveResponse : Json)
    (hround : ∀ result, proveResponse.field "result" = some result →
      serde.fromStr (serde.toString result) = .ok result)
    (hread : ∀ result, proveResponse.field "result" = some result → ReadsFacts serde result) :
    (∀ bundle, bundleFromResponse serde artifact proveResponse = .ok bundle →
      bundleFromExecutionPayload serde bundle.artifact = .ok bundle) ∧
    ∀ e, bundleFromResponse serde artifact proveResponse = .error (.proofFacts e) →
      ∀ result, proveResponse.field "result" = some result →
        ∀ carrier : Snip36ProofArtifact, carrier.executionPayload = some (serde.toString result) →
          ∃ e', bundleFromExecutionPayload serde carrier = .error e' := by
  refine ⟨fun bundle hbundle => ?_, fun e he result hresult carrier hcarrier => ?_⟩
  · obtain ⟨result, hresult, -, facts, hfacts, rfl⟩ := bundleFromResponse_eq_ok.mp hbundle
    have hfacts' := (responseFacts_iff_payloadFacts (hread result hresult)).mp hfacts
    exact bundleFromExecutionPayload_eq_ok.mpr
      ⟨serde.toString result, rfl, result, hround result hresult, facts, hfacts', rfl⟩
  · cases hrebuilt : bundleFromExecutionPayload serde carrier with
    | error e' => exact ⟨e', rfl⟩
    | ok bundle =>
        obtain ⟨payload, hpayload, result', hresult', facts, hfacts, -⟩ :=
          bundleFromExecutionPayload_eq_ok.mp hrebuilt
        obtain rfl := Option.some.inj (hcarrier.symm.trans hpayload)
        obtain rfl := Except.ok.inj ((hround result hresult).symm.trans hresult')
        exact absurd ((responseFacts_iff_payloadFacts (hread result hresult)).mpr hfacts)
          (responseFacts_ne_ok hresult he facts)

/-- `serde_json`, on one text, the compact one of a value. -/
def serdeOf (v : Json) : Serde where
  toString := Json.compact
  toStringPretty := Json.compact
  fromStr := fun text =>
    if text = v.compact then .ok v else .error "expected value at line 1 column 1"
  stringsFromStr := fun text =>
    match v.field "proof_facts" with
    | some facts =>
        if text = facts.compact then okOr facts.strings "invalid type: expected a sequence"
        else .error "expected value at line 1 column 1"
    | none => .error "expected value at line 1 column 1"
  invalidStrings := fun _ => "invalid type: expected a sequence"

theorem serdeOf_fromStr (v : Json) : (serdeOf v).fromStr ((serdeOf v).toString v) = .ok v := by
  simp [serdeOf]

theorem readsFacts_serdeOf (v : Json) : ReadsFacts (serdeOf v) v := by
  intro facts hfacts
  cases hstrings : facts.strings <;> simp [serdeOf, hfacts, hstrings, okOr, Except.toOption]

/-- An artifact of a transaction that is not executed yet. -/
def sampleArtifact : Snip36ProofArtifact where
  version := 1
  blockNumber := 7
  rpcUrl := "http://localhost:9545"
  chainId := "SN_SEPOLIA"
  strkFeeTokenAddress := "0x2"
  txHash := none
  transaction := .obj [("type", .str "INVOKE")]
  executionPayload := none
  proofFactsPreimage := none
  rawMessages := none

/-- The result of a prover, with no message. -/
def sampleResult : Json := .obj [
  ("proof", .str "AQID"),
  ("proof_facts", .arr [.str "0x3025ec0", .str "0x5649525455414c5f534e4f53", .str "0x1"]),
  ("l2_to_l1_messages", .arr [])]

/-- The theorem, at that result. -/
theorem rebuilt_of_response_sample :
    (∀ bundle, bundleFromResponse (serdeOf sampleResult) sampleArtifact
        (.obj [("result", sampleResult)]) = .ok bundle →
      bundleFromExecutionPayload (serdeOf sampleResult) bundle.artifact = .ok bundle) ∧
    ∀ e, bundleFromResponse (serdeOf sampleResult) sampleArtifact
        (.obj [("result", sampleResult)]) = .error (.proofFacts e) →
      ∀ result, Json.field "result" (.obj [("result", sampleResult)]) = some result →
        ∀ carrier : Snip36ProofArtifact,
          carrier.executionPayload = some ((serdeOf sampleResult).toString result) →
          ∃ e', bundleFromExecutionPayload (serdeOf sampleResult) carrier = .error e' := by
  refine rebuilt_of_response (serdeOf sampleResult) sampleArtifact
    (.obj [("result", sampleResult)]) (fun result hresult => ?_) (fun result hresult => ?_)
  · obtain rfl := Option.some.inj hresult
    exact serdeOf_fromStr sampleResult
  · obtain rfl := Option.some.inj hresult
    exact readsFacts_serdeOf sampleResult

end Snip36.Artifacts
