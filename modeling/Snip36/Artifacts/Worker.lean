import Snip36.Artifacts.Bundle

/-!
# Artifacts — the worker in the browser

The browser executes a transaction, and proves the Cairo PIE that it finds in the execution
payload.  It posts a bundle of its own making, in the same type as the server.

* `rebuilt_iff_carries`: the bundle is made again from its artifact exactly when the execution
  payload was the result of a proof, with this proof and these facts, to begin with.
  `not_rebuilt_of_executed`: a payload that the browser has executed is not.
* `sameResult_iff`: the browser and the server report the same exactly when there is a proof, in
  ASCII, there are facts, and the messages are truthy or the artifact has them.
-/

namespace Snip36.Artifacts
open Support

/-! ### The length of a text -/

/-- The number of UTF-16 code units of a character. -/
def utf16Size (c : Char) : ℕ := if c.toNat < 0x10000 then 1 else 2

/-- `length`, of a string in JavaScript. -/
def utf16Length (s : String) : ℕ := (s.toList.map utf16Size).sum

theorem utf8ByteSize_eq_sum (s : String) : s.utf8ByteSize = (s.toList.map Char.utf8Size).sum := by
  obtain ⟨cs, rfl⟩ : ∃ cs, s = String.ofList cs := ⟨s.toList, String.ofList_toList.symm⟩
  rw [String.toList_ofList]
  induction cs with
  | nil => rfl
  | cons c cs ih =>
      rw [String.ofList_cons, String.utf8ByteSize_append, String.utf8ByteSize_singleton, ih,
        List.map_cons, List.sum_cons]

theorem utf16Size_le (c : Char) : utf16Size c ≤ c.utf8Size := by
  have hsize : c.utf8Size = 4 ↔ ¬ c.toNat < 0x10000 := by
    rw [Char.utf8Size_eq_four_iff, UInt32.lt_iff_toNat_lt]
    exact Nat.succ_le_iff.symm.trans Nat.not_lt.symm
  have hpos := c.utf8Size_pos
  unfold utf16Size
  split <;> omega

/-- A character takes as many bytes as code units exactly when it is in ASCII. -/
theorem utf16Size_eq_iff (c : Char) : utf16Size c = c.utf8Size ↔ c.toNat < 128 := by
  have hone : c.utf8Size = 1 ↔ c.toNat < 128 := by
    rw [Char.utf8Size_eq_one_iff, UInt32.le_iff_toNat_le]
    exact Nat.lt_succ_iff.symm
  have hfour : c.utf8Size = 4 ↔ ¬ c.toNat < 0x10000 := by
    rw [Char.utf8Size_eq_four_iff, UInt32.lt_iff_toNat_lt]
    exact Nat.succ_le_iff.symm.trans Nat.not_lt.symm
  unfold utf16Size
  split <;> omega

/-- The text has ASCII characters only. -/
def IsAscii (s : String) : Prop := ∀ c ∈ s.toList, c.toNat < 128

/-- **A text takes as many bytes as code units exactly when it is in ASCII.** -/
theorem utf16Length_eq_iff (s : String) : utf16Length s = s.utf8ByteSize ↔ IsAscii s := by
  rw [utf16Length, utf8ByteSize_eq_sum, IsAscii]
  induction s.toList with
  | nil => simp
  | cons c cs ih =>
      have hle : (cs.map utf16Size).sum ≤ (cs.map Char.utf8Size).sum :=
        List.sum_le_sum fun c _ => utf16Size_le c
      have hc := utf16Size_le c
      rw [List.map_cons, List.map_cons, List.sum_cons, List.sum_cons, List.forall_mem_cons, ← ih,
        ← utf16Size_eq_iff]
      omega

/-! ### The worker -/

/-- `CairoPieProofOutput`. -/
structure CairoPieProof where
  proofBase64 : String
  proofFacts : List String

/-- What JavaScript does, and `prove_cairo_pie`, of the zip in the payload. -/
structure Browser where
  /-- `JSON.parse`. -/
  parse : String → Except String Json
  /-- `JSON.stringify`. -/
  stringify : Json → String
  /-- The error of reading a property of `null`. -/
  nullProperty : String → String
  /-- Whether a number that is not an integer, with this text, is truthy. -/
  truthyNumber : String → Bool
  proveCairoPie : Option Json → Except String CairoPieProof

/-- Whether a value is truthy. -/
def Browser.truthy (browser : Browser) : Json → Bool
  | .null => false
  | .bool b => b
  | .num n => n != 0
  | .float text => browser.truthyNumber text
  | .str s => s != ""
  | .arr _ | .obj _ => true

/-- `rawMessages ? { l2_to_l1_messages: rawMessages } : artifact.raw_messages`. -/
def Browser.rawMessages (browser : Browser) (payload : Json) (artifact : Snip36ProofArtifact) :
    Option Json :=
  match (payload.field "l2_to_l1_messages").filter browser.truthy with
  | some messages => some (wrapMessages messages)
  | none => artifact.rawMessages

/-- `JSON.stringify`, of the proof. -/
def CairoPieProof.toJson (proved : CairoPieProof) : Json := .obj [
  ("proof_base64", .str proved.proofBase64),
  ("proof_facts", .arr (proved.proofFacts.map .str))]

/-- The bundle that is posted for a proof. -/
def postedBundle (browser : Browser) (artifact : Snip36ProofArtifact) (payload : Json)
    (proved : CairoPieProof) : Snip36ProofBundle :=
  let rawMessages := browser.rawMessages payload artifact
  { artifact := { artifact with
      rawMessages
      proofFactsPreimage := some proved.proofFacts }
    proofBase64 := some proved.proofBase64
    proofFacts := proved.proofFacts
    rawMessages
    proofSize := some (utf16Length proved.proofBase64) }

/-- `prove_artifact_in_browser`: the bundle that is posted, or the error. -/
def proveArtifactInBrowser (browser : Browser) (artifact : Snip36ProofArtifact) :
    Except String Snip36ProofBundle := do
  let text ← okOr (artifact.executionPayload.filter fun text => text != "")
    "artifact.execution_payload is missing"
  let payload ← browser.parse text
  failIf payload.isNull (browser.nullProperty "cairo_pie_zip_base64")
  let proved ← browser.proveCairoPie (payload.field "cairo_pie_zip_base64")
  failIf (proved.proofBase64 = "")
    ("invalid prove_cairo_pie response: " ++ browser.stringify proved.toJson)
  return postedBundle browser artifact payload proved

/-- `executeVirtualBlockInBrowser`, of an execution at a block that has the payload. -/
def executeVirtualBlockInBrowser (browser : Browser) (artifact : Snip36ProofArtifact)
    (blockNumber : BitVec 64) (payload : Json) : Snip36ProofArtifact :=
  { artifact with
    blockNumber
    executionPayload := some (browser.stringify payload)
    rawMessages := browser.rawMessages payload artifact }

/-- `CairoPieExecutionPayload`, of a zip, and the messages if there are any. -/
def cairoPieExecutionPayload (zip : String) (messages : Option Json) : Json :=
  .obj (("cairo_pie_zip_base64", .str zip) ::
    (messages.map fun messages => ("l2_to_l1_messages", messages)).toList)

theorem proveArtifactInBrowser_eq_ok {browser : Browser} {artifact : Snip36ProofArtifact}
    {bundle : Snip36ProofBundle} :
    proveArtifactInBrowser browser artifact = .ok bundle ↔
      ∃ text, artifact.executionPayload = some text ∧ text ≠ "" ∧
        ∃ payload, browser.parse text = .ok payload ∧ payload.isNull = false ∧
          ∃ proved, browser.proveCairoPie (payload.field "cairo_pie_zip_base64") = .ok proved ∧
            proved.proofBase64 ≠ "" ∧ postedBundle browser artifact payload proved = bundle := by
  have hfilter : ∀ text, artifact.executionPayload.filter (fun text => text != "") = some text ↔
      artifact.executionPayload = some text ∧ text ≠ "" := fun text => by
    rw [Option.filter_eq_some_iff, bne_iff_ne]
  rw [proveArtifactInBrowser, bind_eq_ok]
  constructor
  · rintro ⟨text, htext, h⟩
    obtain ⟨payload, hpayload, h⟩ := bind_eq_ok.mp h
    rw [check_bind_eq_ok, failIf_eq_ok] at h
    obtain ⟨hnull, h⟩ := h
    obtain ⟨proved, hproved, h⟩ := bind_eq_ok.mp h
    rw [check_bind_eq_ok, failIf_eq_ok] at h
    obtain ⟨hsome, hne⟩ := (hfilter text).mp (okOr_eq_ok.mp htext)
    exact ⟨text, hsome, hne, payload, hpayload, Bool.eq_false_iff.mpr hnull, proved, hproved, h.1,
      pure_eq_ok.mp h.2⟩
  · rintro ⟨text, hsome, hne, payload, hpayload, hnull, proved, hproved, hproof, h⟩
    refine ⟨text, okOr_eq_ok.mpr ((hfilter text).mpr ⟨hsome, hne⟩),
      bind_eq_ok.mpr ⟨payload, hpayload, ?_⟩⟩
    rw [check_bind_eq_ok, failIf_eq_ok]
    refine ⟨Bool.eq_false_iff.mp hnull, bind_eq_ok.mpr ⟨proved, hproved, ?_⟩⟩
    rw [check_bind_eq_ok, failIf_eq_ok]
    exact ⟨hproof, pure_eq_ok.mpr h⟩

/-! ### What the worker posts, made again -/

/-- What `serde_json` reads of the execution payload, `v`, is the result of this very proof: the
proof, in ASCII, the facts, of which there are some, and the messages that are posted. -/
structure Carries (browser : Browser) (artifact : Snip36ProofArtifact) (payload : Json)
    (proved : CairoPieProof) (v : Json) : Prop where
  proof : (v.field "proof").bind Json.text = some proved.proofBase64
  facts : (v.field "proof_facts").bind Json.strings = some proved.proofFacts
  facts_ne : proved.proofFacts ≠ []
  messages : match (payload.field "l2_to_l1_messages").filter browser.truthy with
    | some messages => v.field "l2_to_l1_messages" = some messages
    | none => (v.field "l2_to_l1_messages").map wrapMessages = artifact.rawMessages
  ascii : IsAscii proved.proofBase64

/-- The messages of a payload, as they are posted. -/
theorem rawMessages_eq_iff {browser : Browser} {artifact : Snip36ProofArtifact} {payload : Json}
    {messages : Option Json} :
    messages.map wrapMessages = browser.rawMessages payload artifact ↔
      match (payload.field "l2_to_l1_messages").filter browser.truthy with
      | some m => messages = some m
      | none => messages.map wrapMessages = artifact.rawMessages := by
  rw [Browser.rawMessages]
  split
  · cases messages <;> simp [wrapMessages_inj]
  · exact Iff.rfl

/-- A bundle of a result is the posted one exactly when the result is that of the proof. -/
theorem bundleOf_eq_posted_iff {browser : Browser} {artifact : Snip36ProofArtifact}
    {payload v : Json} {proved : CairoPieProof} {facts : List String} :
    bundleOf (postedBundle browser artifact payload proved).artifact v facts
        = postedBundle browser artifact payload proved ↔
      facts = proved.proofFacts ∧ proved.proofFacts ≠ [] ∧
        (v.field "proof").bind Json.text = some proved.proofBase64 ∧
        (v.field "l2_to_l1_messages").map wrapMessages = browser.rawMessages payload artifact ∧
        IsAscii proved.proofBase64 := by
  rw [← utf16Length_eq_iff]
  constructor
  · intro h
    have hfacts : facts = proved.proofFacts := congrArg Snip36ProofBundle.proofFacts h
    have hproof : (v.field "proof").bind Json.text = some proved.proofBase64 :=
      congrArg Snip36ProofBundle.proofBase64 h
    have hmessages := congrArg Snip36ProofBundle.rawMessages h
    have hpreimage := congrArg (fun b => b.artifact.proofFactsPreimage) h
    have hsize := congrArg Snip36ProofBundle.proofSize h
    simp only [bundleOf, postedBundle, hproof, Option.map_some, Option.some.injEq] at hsize
    refine ⟨hfacts, fun hnil => ?_, hproof, hmessages, hsize.symm⟩
    simp [bundleOf, postedBundle, hfacts, hnil] at hpreimage
  · rintro ⟨rfl, hne, hproof, hmessages, hsize⟩
    have hisEmpty : proved.proofFacts.isEmpty = false := List.isEmpty_eq_false_iff.mpr hne
    simp [bundleOf, postedBundle, hproof, hmessages, hisEmpty, hsize]

/-- **A bundle that the browser made can be rebuilt exactly when its execution payload was the
result of the proof to begin with.** -/
theorem rebuilt_iff_carries {serde : Serde} {browser : Browser} {artifact : Snip36ProofArtifact}
    {bundle : Snip36ProofBundle} {text : String} {payload : Json} {proved : CairoPieProof}
    (htext : artifact.executionPayload = some text) (hpayload : browser.parse text = .ok payload)
    (hproved : browser.proveCairoPie (payload.field "cairo_pie_zip_base64") = .ok proved)
    (hposted : proveArtifactInBrowser browser artifact = .ok bundle) :
    bundleFromExecutionPayload serde bundle.artifact = .ok bundle ↔
      ∃ v, serde.fromStr text = .ok v ∧ Carries browser artifact payload proved v := by
  obtain ⟨text', htext', -, payload', hpayload', -, proved', hproved', -, rfl⟩ :=
    proveArtifactInBrowser_eq_ok.mp hposted
  obtain rfl := Option.some.inj (htext.symm.trans htext')
  obtain rfl := Except.ok.inj (hpayload.symm.trans hpayload')
  obtain rfl := Except.ok.inj (hproved.symm.trans hproved')
  rw [bundleFromExecutionPayload_eq_ok]
  constructor
  · rintro ⟨text', htext', v, hv, facts, hfacts, h⟩
    obtain rfl := Option.some.inj (htext.symm.trans htext')
    obtain ⟨rfl, hne, hproof, hmessages, hascii⟩ := bundleOf_eq_posted_iff.mp h
    have hstrings : (v.field "proof_facts").bind Json.strings = some proved.proofFacts := by
      rcases payloadFacts_eq_ok.mp hfacts with ⟨w, hw, hstrings⟩ | ⟨-, hnil⟩
      · rw [hw]
        exact hstrings
      · exact absurd hnil hne
    exact ⟨v, hv, hproof, hstrings, hne, rawMessages_eq_iff.mp hmessages, hascii⟩
  · rintro ⟨v, hv, hcarries⟩
    obtain ⟨w, hw, hstrings⟩ := Option.bind_eq_some_iff.mp hcarries.facts
    refine ⟨text, htext, v, hv, proved.proofFacts,
      payloadFacts_eq_ok.mpr (.inl ⟨w, hw, hstrings⟩), ?_⟩
    exact bundleOf_eq_posted_iff.mpr ⟨rfl, hcarries.facts_ne, hcarries.proof,
      rawMessages_eq_iff.mpr hcarries.messages, hcarries.ascii⟩

/-- JavaScript, on one text, the compact one of a payload, and a prover of one proof. -/
def browserOf (payload : Json) (proved : CairoPieProof) : Browser where
  parse := fun text =>
    if text = payload.compact then .ok payload else .error "Unexpected token in JSON"
  stringify := Json.compact
  nullProperty := fun key => "Cannot read properties of null (reading '" ++ key ++ "')"
  truthyNumber := fun text => text != "0.0" && text != "-0.0"
  proveCairoPie := fun zip =>
    match zip.bind Json.text with
    | some _ => .ok proved
    | none => .error "invalid cairo pie input: missing field `cairo_pie_zip_base64`"

theorem browserOf_parse (payload : Json) (proved : CairoPieProof) :
    (browserOf payload proved).parse payload.compact = .ok payload :=
  if_pos (Eq.refl payload.compact)

/-- A proof, as `prove_cairo_pie` returns it. -/
def sampleProved : CairoPieProof where
  proofBase64 := "AQID"
  proofFacts := ["0x3025ec0", "0x5649525455414c5f534e4f53", "0x1"]

/-- A payload that is both the zip and the result of the proof. -/
def carryingPayload : Json := .obj [
  ("cairo_pie_zip_base64", .str "UEsDBA=="),
  ("proof", .str "AQID"),
  ("proof_facts", .arr [.str "0x3025ec0", .str "0x5649525455414c5f534e4f53", .str "0x1"]),
  ("l2_to_l1_messages", .arr [])]

/-- The theorem, at that payload. -/
theorem rebuilt_iff_carries_carrying :
    bundleFromExecutionPayload (serdeOf carryingPayload)
        (postedBundle (browserOf carryingPayload sampleProved)
          { sampleArtifact with executionPayload := some carryingPayload.compact }
          carryingPayload sampleProved).artifact
      = .ok (postedBundle (browserOf carryingPayload sampleProved)
          { sampleArtifact with executionPayload := some carryingPayload.compact }
          carryingPayload sampleProved) ↔
      ∃ v, (serdeOf carryingPayload).fromStr carryingPayload.compact = .ok v ∧
        Carries (browserOf carryingPayload sampleProved)
          { sampleArtifact with executionPayload := some carryingPayload.compact }
          carryingPayload sampleProved v :=
  rebuilt_iff_carries rfl (browserOf_parse ..) rfl (proveArtifactInBrowser_eq_ok.mpr
    ⟨carryingPayload.compact, rfl, by decide +kernel, carryingPayload, browserOf_parse .., rfl,
      sampleProved, rfl, by decide, rfl⟩)

/-- **What the browser has executed and proved cannot be rebuilt**: the payload that it writes has
the zip and the messages, and neither the proof nor the facts. -/
theorem not_rebuilt_of_executed {serde : Serde} {browser : Browser}
    {artifact : Snip36ProofArtifact} {blockNumber : BitVec 64} {zip : String}
    {messages : Option Json} {bundle : Snip36ProofBundle}
    (hread : serde.fromStr (browser.stringify (cairoPieExecutionPayload zip messages))
      = .ok (cairoPieExecutionPayload zip messages))
    (hposted : proveArtifactInBrowser browser (executeVirtualBlockInBrowser browser artifact
      blockNumber (cairoPieExecutionPayload zip messages)) = .ok bundle) :
    bundleFromExecutionPayload serde bundle.artifact ≠ .ok bundle := by
  obtain ⟨text, htext, -, payload, -, -, proved, -, -, rfl⟩ :=
    proveArtifactInBrowser_eq_ok.mp hposted
  obtain rfl := Option.some.inj htext
  intro h
  obtain ⟨text, htext, v, hv, facts, -, hbundle⟩ := bundleFromExecutionPayload_eq_ok.mp h
  obtain rfl := Option.some.inj htext
  obtain rfl := Except.ok.inj (hread.symm.trans hv)
  have hproof := (bundleOf_eq_posted_iff.mp hbundle).2.2.1
  cases messages <;> simp [cairoPieExecutionPayload] at hproof

/-- The payload that the browser writes, without messages. -/
def executedPayload : Json := cairoPieExecutionPayload "UEsDBA==" none

/-- A payload that the browser has executed: the bundle that is made again has no proof. -/
theorem executed_not_rebuilt :
    ∃ bundle, proveArtifactInBrowser (browserOf executedPayload sampleProved)
        (executeVirtualBlockInBrowser (browserOf executedPayload sampleProved) sampleArtifact 7
          executedPayload) = .ok bundle ∧
      bundleFromExecutionPayload (serdeOf executedPayload) bundle.artifact ≠ .ok bundle := by
  refine ⟨_, proveArtifactInBrowser_eq_ok.mpr ⟨executedPayload.compact, rfl, by decide +kernel,
    executedPayload, browserOf_parse .., rfl, sampleProved, rfl, by decide, rfl⟩, fun h => ?_⟩
  obtain ⟨text, htext, v, hv, facts, -, hbundle⟩ := bundleFromExecutionPayload_eq_ok.mp h
  obtain rfl := Option.some.inj htext
  obtain rfl := Except.ok.inj ((serdeOf_fromStr executedPayload).symm.trans hv)
  exact absurd (bundleOf_eq_posted_iff.mp hbundle).2.2.1 nofun

/-! ### The browser and the server -/

/-- The two bundles report the same proof, facts and messages. -/
structure SameResult (b b' : Snip36ProofBundle) : Prop where
  proofBase64 : b.proofBase64 = b'.proofBase64
  proofFacts : b.proofFacts = b'.proofFacts
  rawMessages : b.rawMessages = b'.rawMessages
  proofSize : b.proofSize = b'.proofSize
  artifactRawMessages : b.artifact.rawMessages = b'.artifact.rawMessages
  preimage : b.artifact.proofFactsPreimage = b'.artifact.proofFactsPreimage

/-- A response that has the proof, the facts and the messages. -/
structure RespondsWith (proveResponse : Json) (proved : CairoPieProof) (messages : Option Json)
    (result : Json) : Prop where
  some_result : proveResponse.field "result" = some result
  proof : result.field "proof" = some (.str proved.proofBase64)
  facts : result.field "proof_facts" = some (.arr (proved.proofFacts.map .str))
  messages : result.field "l2_to_l1_messages" = messages

/-- The messages are the same exactly when they are truthy or the artifact has them. -/
theorem rawMessages_eq_wrapped_iff {browser : Browser} {artifact : Snip36ProofArtifact}
    {payload : Json} :
    browser.rawMessages payload artifact
        = (payload.field "l2_to_l1_messages").map wrapMessages ↔
      (payload.field "l2_to_l1_messages").any browser.truthy = true ∨
        artifact.rawMessages = (payload.field "l2_to_l1_messages").map wrapMessages := by
  rw [Browser.rawMessages]
  cases payload.field "l2_to_l1_messages" with
  | none => simp
  | some messages =>
      by_cases htruthy : browser.truthy messages = true
      · simp [Option.filter, htruthy]
      · simp [Option.filter, htruthy]

/-- The two bundles are the same exactly when the proof is in ASCII, there are facts, and the
messages are truthy or the artifact has them. -/
theorem sameResult_posted_iff {browser : Browser} {artifact carrier : Snip36ProofArtifact}
    {payload result : Json} {proved : CairoPieProof}
    (hproof : result.field "proof" = some (.str proved.proofBase64))
    (hmessages : result.field "l2_to_l1_messages" = payload.field "l2_to_l1_messages") :
    SameResult (postedBundle browser artifact payload proved)
        (bundleOf carrier result proved.proofFacts) ↔
      proved.proofFacts ≠ [] ∧ IsAscii proved.proofBase64 ∧
        ((payload.field "l2_to_l1_messages").any browser.truthy = true ∨
          artifact.rawMessages = (payload.field "l2_to_l1_messages").map wrapMessages) := by
  rw [← rawMessages_eq_wrapped_iff, ← utf16Length_eq_iff]
  have hbase64 : (result.field "proof").bind Json.text = some proved.proofBase64 := by
    rw [hproof]
    rfl
  constructor
  · intro h
    refine ⟨fun hnil => ?_, ?_, hmessages ▸ h.rawMessages⟩
    · have hpreimage := h.preimage
      simp [postedBundle, bundleOf, hnil] at hpreimage
    · have hsize := h.proofSize
      simpa [postedBundle, bundleOf, hbase64] using hsize
  · rintro ⟨hne, hsize, hraw⟩
    have hisEmpty : proved.proofFacts.isEmpty = false := List.isEmpty_eq_false_iff.mpr hne
    refine ⟨hbase64.symm, rfl, ?_, ?_, ?_, ?_⟩
    · exact hraw.trans (by rw [bundleOf, hmessages])
    · simp [postedBundle, bundleOf, hbase64, hsize]
    · exact hraw.trans (by rw [bundleOf, hmessages])
    · simp [postedBundle, bundleOf, hisEmpty]

/-- **The browser and the server report the same result exactly when** there is a proof, in ASCII,
there are facts, and the messages are truthy or the artifact has them already. -/
theorem sameResult_iff {serde : Serde} {browser : Browser} {artifact : Snip36ProofArtifact}
    {text : String} {payload proveResponse result : Json} {proved : CairoPieProof}
    (htext : artifact.executionPayload = some text) (hne : text ≠ "")
    (hpayload : browser.parse text = .ok payload) (hnull : payload.isNull = false)
    (hproved : browser.proveCairoPie (payload.field "cairo_pie_zip_base64") = .ok proved)
    (hresponse : RespondsWith proveResponse proved (payload.field "l2_to_l1_messages") result)
    (hread : ReadsFacts serde result) :
    (∃ b b', proveArtifactInBrowser browser artifact = .ok b ∧
        bundleFromResponse serde artifact proveResponse = .ok b' ∧ SameResult b b') ↔
      proved.proofBase64 ≠ "" ∧ proved.proofFacts ≠ [] ∧ IsAscii proved.proofBase64 ∧
        ((payload.field "l2_to_l1_messages").any browser.truthy = true ∨
          artifact.rawMessages = (payload.field "l2_to_l1_messages").map wrapMessages) := by
  have hfacts : responseFacts serde result = .ok proved.proofFacts := by
    rw [responseFacts_iff_payloadFacts hread]
    exact payloadFacts_eq_ok.mpr (.inl ⟨_, hresponse.facts, Json.strings_arr_str _⟩)
  have hresult : result.isNull = false := by
    cases result with
    | null => exact absurd hresponse.proof nofun
    | _ => rfl
  have hserver : bundleFromResponse serde artifact proveResponse = .ok _ :=
    bundleFromResponse_eq_ok.mpr ⟨result, hresponse.some_result, hresult, _, hfacts, rfl⟩
  constructor
  · rintro ⟨b, b', hb, hb', hsame⟩
    obtain rfl := Except.ok.inj (hserver.symm.trans hb')
    obtain ⟨text', htext', -, payload', hpayload', -, proved', hproved', hproof, rfl⟩ :=
      proveArtifactInBrowser_eq_ok.mp hb
    obtain rfl := Option.some.inj (htext.symm.trans htext')
    obtain rfl := Except.ok.inj (hpayload.symm.trans hpayload')
    obtain rfl := Except.ok.inj (hproved.symm.trans hproved')
    exact ⟨hproof, (sameResult_posted_iff hresponse.proof hresponse.messages).mp hsame⟩
  · rintro ⟨hproof, hrest⟩
    have hposted : proveArtifactInBrowser browser artifact = .ok _ :=
      proveArtifactInBrowser_eq_ok.mpr
        ⟨text, htext, hne, payload, hpayload, hnull, proved, hproved, hproof, rfl⟩
    exact ⟨_, _, hposted, hserver,
      (sameResult_posted_iff hresponse.proof hresponse.messages).mpr hrest⟩

/-- A response with the sample proof and no messages. -/
def quietResult : Json := .obj [
  ("proof", .str "AQID"),
  ("proof_facts", .arr [.str "0x3025ec0", .str "0x5649525455414c5f534e4f53", .str "0x1"])]

/-- The theorem, for an artifact that has no messages, in a proof without messages. -/
theorem sameResult_iff_quiet :
    (∃ b b', proveArtifactInBrowser (browserOf executedPayload sampleProved)
          { sampleArtifact with executionPayload := some executedPayload.compact } = .ok b ∧
        bundleFromResponse (serdeOf quietResult)
          { sampleArtifact with executionPayload := some executedPayload.compact }
          (.obj [("result", quietResult)]) = .ok b' ∧ SameResult b b') ↔
      sampleProved.proofBase64 ≠ "" ∧ sampleProved.proofFacts ≠ [] ∧
        IsAscii sampleProved.proofBase64 ∧
        ((executedPayload.field "l2_to_l1_messages").any
            (browserOf executedPayload sampleProved).truthy = true ∨
          sampleArtifact.rawMessages
            = (executedPayload.field "l2_to_l1_messages").map wrapMessages) := by
  have hne : executedPayload.compact ≠ "" := by decide +kernel
  exact sameResult_iff rfl hne (browserOf_parse ..) rfl rfl ⟨rfl, rfl, rfl, rfl⟩
    (readsFacts_serdeOf quietResult)

/-- An artifact with a message of an earlier proof. -/
def staleArtifact : Snip36ProofArtifact :=
  { sampleArtifact with
    executionPayload := some executedPayload.compact
    rawMessages := some (wrapMessages (.arr [.obj [("to_address", .str "0x1")]])) }

/-- The browser reports the messages of an earlier proof, and the server none. -/
theorem stale_not_sameResult :
    ∃ b b', proveArtifactInBrowser (browserOf executedPayload sampleProved) staleArtifact = .ok b ∧
      bundleFromResponse (serdeOf quietResult) staleArtifact (.obj [("result", quietResult)])
        = .ok b' ∧ ¬ SameResult b b' := by
  refine ⟨_, _, proveArtifactInBrowser_eq_ok.mpr ⟨executedPayload.compact, rfl, by decide +kernel,
    executedPayload, browserOf_parse .., rfl, sampleProved, rfl, by decide, rfl⟩,
    bundleFromResponse_eq_ok.mpr ⟨quietResult, rfl, rfl, sampleProved.proofFacts, ?_, rfl⟩,
    fun h => ?_⟩
  · rw [responseFacts_iff_payloadFacts (readsFacts_serdeOf quietResult)]
    rfl
  · exact absurd h.rawMessages nofun

end Snip36.Artifacts
