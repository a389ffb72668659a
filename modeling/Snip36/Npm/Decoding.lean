import Snip36.Artifacts.Bundle

/-!
# The npm package — inputs across the boundary

`index.ts` hands JavaScript values to the wasm crate, which decodes them into the inputs of the
pure crate.  The records are declared twice, in TypeScript and in Rust.  This module has the
JavaScript values, the decoders (`serde_wasm_bindgen`), the TypeScript records with the objects
that `index.ts` makes of them, and what each decoder does with these objects.

`inputs_decode_iff`: a transaction input is decoded when it has no resource bounds, since a price is
a `u128`, which only a bigint is decoded as; a payload input never, since the calldata is left in
the call; and an artifact when it has a block number and its untyped fields are JSON values.
-/

namespace Snip36.Npm
open Support Signing Artifacts

/-! ### JavaScript values -/

/-- A JavaScript value.  A number that is not a safe integer is kept as its text, and a value that
none of the other constructors has (a function, a symbol) as what `serde_wasm_bindgen` makes of it
when any JSON value will do. -/
inductive JsValue where
  | undefined
  | null
  | bool (b : Bool)
  | number (n : ℤ)
  | float (text : String)
  | bigint (n : ℤ)
  | string (s : String)
  | array (elems : List JsValue)
  | object (fields : List (String × JsValue))
  | foreign (json : Option Json)

namespace JsValue

/-- The value of a property, when the object has it. -/
def field (key : String) : JsValue → Option JsValue
  | .object fields => fields.lookup key
  | _ => none

@[simp] theorem field_cons (key k : String) (v : JsValue) (fields : List (String × JsValue)) :
    field key (.object ((k, v) :: fields))
      = if key = k then some v else field key (.object fields) := by
  by_cases h : key = k
  · simp [field, List.lookup, h]
  · simp [field, List.lookup, h, beq_false_of_ne h]

@[simp] theorem field_nil (key : String) : field key (.object []) = none := rfl

@[simp] theorem field_append (key : String) (xs ys : List (String × JsValue)) :
    field key (.object (xs ++ ys)) = (field key (.object xs)).or (field key (.object ys)) :=
  List.lookup_append

/-- `null` or `undefined`. -/
def isNullish : JsValue → Bool
  | .undefined | .null => true
  | _ => false

/-! ### Decoders -/

/-- An integer, as an unsigned one of `w` bits. -/
def unsigned (w : ℕ) (n : ℤ) : Option (BitVec w) :=
  if 0 ≤ n ∧ n < 2 ^ w then some (BitVec.ofInt w n) else none

/-- A `u32`: a number. -/
def u32 : JsValue → Option (BitVec 32)
  | .number n => unsigned 32 n
  | _ => none

/-- A `u64`: a number or a bigint. -/
def u64 : JsValue → Option (BitVec 64)
  | .number n | .bigint n => unsigned 64 n
  | _ => none

/-- A `u128`: a bigint, and no number. -/
def u128 : JsValue → Option (BitVec 128)
  | .bigint n => unsigned 128 n
  | _ => none

/-- A `String`. -/
def text : JsValue → Option String
  | .string s => some s
  | _ => none

/-- A `Vec<String>`. -/
def texts : JsValue → Option (List String)
  | .array elems => elems.mapM text
  | _ => none

mutual

/-- A `serde_json::Value`. -/
def toJson : JsValue → Option Json
  | .undefined | .null => some .null
  | .bool b => some (.bool b)
  | .number n => some (.num n)
  | .float text => some (.float text)
  -- It is read as an `i64` or a `u64`.
  | .bigint n => if -2 ^ 63 ≤ n ∧ n < 2 ^ 64 then some (.num n) else none
  | .string s => some (.str s)
  | .array elems => (toJsons elems).map .arr
  | .object fields => (toFields fields).map .obj
  | .foreign json => json

/-- Some elements. -/
def toJsons : List JsValue → Option (List Json)
  | [] => some []
  | v :: vs => do
      let json ← v.toJson
      let rest ← toJsons vs
      pure (json :: rest)

/-- Some fields. -/
def toFields : List (String × JsValue) → Option (List (String × Json))
  | [] => some []
  | (key, v) :: fields => do
      let json ← v.toJson
      let rest ← toFields fields
      pure ((key, json) :: rest)

end

/-- A field that must be there. -/
def required {α : Type} (decode : JsValue → Option α) (key : String) (v : JsValue) : Option α :=
  (v.field key).bind decode

/-- A field of an `Option`: none when it is missing, `null` or `undefined`. -/
def optional {α : Type} (decode : JsValue → Option α) (key : String) (v : JsValue) :
    Option (Option α) :=
  match v.field key with
  | some value => if value.isNullish then some none else (decode value).map some
  | none => some none

/-- A `ResourceBound`. -/
def resourceBound (v : JsValue) : Option ResourceBound := do
  let maxAmount ← v.required u64 "max_amount"
  let maxPricePerUnit ← v.required u128 "max_price_per_unit"
  pure ⟨maxAmount, maxPricePerUnit⟩

/-- `ResourceBounds`. -/
def resourceBounds (v : JsValue) : Option ResourceBounds := do
  let l1Gas ← v.required resourceBound "l1_gas"
  let l2Gas ← v.required resourceBound "l2_gas"
  let l1DataGas ← v.required resourceBound "l1_data_gas"
  pure ⟨l1Gas, l2Gas, l1DataGas⟩

/-- A `Snip36TransactionInput`. -/
def transactionInput (v : JsValue) : Option Snip36TransactionInput := do
  let senderAddress ← v.required text "sender_address"
  let privateKey ← v.required text "private_key"
  let calldata ← v.required texts "calldata"
  let nonce ← v.required text "nonce"
  let chainId ← v.required text "chain_id"
  let resourceBounds ← v.optional resourceBounds "resource_bounds"
  pure { senderAddress, privateKey, calldata, nonce, chainId, resourceBounds }

/-- A `Snip36UnsignedTransactionInput`. -/
def unsignedTransactionInput (v : JsValue) : Option Snip36UnsignedTransactionInput := do
  let senderAddress ← v.required text "sender_address"
  let calldata ← v.required texts "calldata"
  let nonce ← v.required text "nonce"
  let chainId ← v.required text "chain_id"
  let resourceBounds ← v.optional resourceBounds "resource_bounds"
  pure { senderAddress, calldata, nonce, chainId, resourceBounds }

/-- A `Snip36PayloadInput`. -/
def payloadInput (v : JsValue) : Option Snip36PayloadInput := do
  let senderAddress ← v.required text "sender_address"
  let privateKey ← v.required text "private_key"
  let calldata ← v.required texts "calldata"
  let proofBase64 ← v.required text "proof_base64"
  let proofFacts ← v.required texts "proof_facts"
  let nonce ← v.required text "nonce"
  let chainId ← v.required text "chain_id"
  let resourceBounds ← v.optional resourceBounds "resource_bounds"
  pure { senderAddress, privateKey, calldata, proofBase64, proofFacts, nonce, chainId,
         resourceBounds }

/-- A `Snip36UnsignedPayloadInput`. -/
def unsignedPayloadInput (v : JsValue) : Option Snip36UnsignedPayloadInput := do
  let senderAddress ← v.required text "sender_address"
  let calldata ← v.required texts "calldata"
  let proofBase64 ← v.required text "proof_base64"
  let proofFacts ← v.required texts "proof_facts"
  let nonce ← v.required text "nonce"
  let chainId ← v.required text "chain_id"
  let resourceBounds ← v.optional resourceBounds "resource_bounds"
  pure { senderAddress, calldata, proofBase64, proofFacts, nonce, chainId, resourceBounds }

/-- A `Snip36ProofArtifact`. -/
def proofArtifact (v : JsValue) : Option Artifacts.Snip36ProofArtifact := do
  let version ← v.required u32 "version"
  let blockNumber ← v.required u64 "block_number"
  let rpcUrl ← v.required text "rpc_url"
  let chainId ← v.required text "chain_id"
  let strkFeeTokenAddress ← v.required text "strk_fee_token_address"
  let txHash ← v.optional text "tx_hash"
  let transaction ← v.required toJson "transaction"
  let executionPayload ← v.optional text "execution_payload"
  let proofFactsPreimage ← v.optional texts "proof_facts_preimage"
  let rawMessages ← v.optional toJson "raw_messages"
  pure { version, blockNumber, rpcUrl, chainId, strkFeeTokenAddress, txHash, transaction,
         executionPayload, proofFactsPreimage, rawMessages }

end JsValue

/-! ### The TypeScript records -/

/-- A property `key?: T | null`. -/
inductive Nullable (α : Type) where
  | missing
  | undefined
  | null
  | value (a : α)

namespace Nullable

variable {α : Type}

/-- The value, when there is one. -/
def toOption : Nullable α → Option α
  | .value a => some a
  | _ => none

/-- The value that a read of the property gives. -/
def read (encode : α → JsValue) : Nullable α → JsValue
  | .missing | .undefined => .undefined
  | .null => .null
  | .value a => encode a

/-- The property in an object. -/
def property (key : String) (encode : α → JsValue) : Nullable α → List (String × JsValue)
  | .missing => []
  | x => [(key, x.read encode)]

end Nullable

/-- The value of the property, when it is there. -/
def Nullable.there {α : Type} (encode : α → JsValue) : Nullable α → Option JsValue
  | .missing => none
  | x => some (x.read encode)

theorem field_property {α : Type} (key k : String) (encode : α → JsValue) (x : Nullable α) :
    JsValue.field key (.object (x.property k encode))
      = if key = k then x.there encode else none := by
  cases x <;> simp [Nullable.property, Nullable.there]

/-- An array of strings. -/
def jsTexts (ss : List String) : JsValue := .array (ss.map .string)

namespace Ts

/-- `string | number`. -/
inductive StringOrNumber where
  | string (s : String)
  | number (n : ℤ)

def StringOrNumber.toJs : StringOrNumber → JsValue
  | .string s => .string s
  | .number n => .number n

/-- `ResourceBound`. -/
structure ResourceBound where
  maxAmount : ℤ
  maxPricePerUnit : StringOrNumber

def ResourceBound.toJs (bound : ResourceBound) : JsValue :=
  .object [
    ("max_amount", .number bound.maxAmount),
    ("max_price_per_unit", bound.maxPricePerUnit.toJs)]

/-- `ResourceBounds`. -/
structure ResourceBounds where
  l1Gas : ResourceBound
  l2Gas : ResourceBound
  l1DataGas : ResourceBound

def ResourceBounds.toJs (bounds : ResourceBounds) : JsValue :=
  .object [
    ("l1_gas", bounds.l1Gas.toJs),
    ("l2_gas", bounds.l2Gas.toJs),
    ("l1_data_gas", bounds.l1DataGas.toJs)]

/-- The `call` of an input. -/
structure Call where
  contractAddress : String
  entrypoint : String
  calldata : List String

def Call.toJs (call : Call) : JsValue :=
  .object [
    ("contractAddress", .string call.contractAddress),
    ("entrypoint", .string call.entrypoint),
    ("calldata", jsTexts call.calldata)]

/-- `Snip36TransactionBuildInput`. -/
structure Snip36TransactionBuildInput where
  rpcUrl : String
  senderAddress : String
  privateKey : String
  call : Call
  nonce : Nullable String
  chainId : String
  resourceBounds : Nullable ResourceBounds

/-- `Snip36UnsignedTransactionBuildInput`. -/
structure Snip36UnsignedTransactionBuildInput where
  rpcUrl : String
  senderAddress : String
  calldata : List String
  nonce : Nullable String
  chainId : String
  resourceBounds : Nullable ResourceBounds

/-- `Snip36PayloadInput`. -/
structure Snip36PayloadInput where
  rpcUrl : String
  senderAddress : String
  privateKey : String
  call : Call
  proofBase64 : String
  proofFacts : List String
  nonce : Nullable String
  chainId : String
  resourceBounds : Nullable ResourceBounds

/-- `Snip36UnsignedPayloadInput`. -/
structure Snip36UnsignedPayloadInput where
  senderAddress : String
  call : Call
  proofBase64 : String
  proofFacts : List String
  nonce : String
  chainId : String
  resourceBounds : Nullable ResourceBounds

/-- `Snip36ProofArtifact`. -/
structure Snip36ProofArtifact where
  version : ℤ
  blockNumber : Nullable ℤ
  rpcUrl : String
  chainId : String
  strkFeeTokenAddress : String
  txHash : Nullable String
  transaction : JsValue
  executionPayload : Nullable String
  proofFactsPreimage : Nullable (List String)
  /-- `raw_messages?: unknown`: none when it is missing. -/
  rawMessages : Option JsValue

/-! ### What `index.ts` passes -/

/-- `input.nonce ?? fetched`. -/
def nonceOr (nonce : Nullable String) (fetched : String) : String := nonce.toOption.getD fetched

/-- The argument of `build_snip36_transaction`, in `buildTransactionForProving`. -/
def Snip36TransactionBuildInput.passed (input : Snip36TransactionBuildInput) (fetched : String) :
    JsValue :=
  .object [
    ("sender_address", .string input.senderAddress),
    ("private_key", .string input.privateKey),
    ("calldata", jsTexts input.call.calldata),
    ("nonce", .string (nonceOr input.nonce fetched)),
    ("chain_id", .string input.chainId),
    ("resource_bounds", input.resourceBounds.read ResourceBounds.toJs)]

/-- The argument of `build_snip36_unsigned_transaction`, in `buildUnsignedTransactionForProving`. -/
def Snip36UnsignedTransactionBuildInput.passed (input : Snip36UnsignedTransactionBuildInput)
    (fetched : String) : JsValue :=
  .object [
    ("sender_address", .string input.senderAddress),
    ("calldata", jsTexts input.calldata),
    ("nonce", .string (nonceOr input.nonce fetched)),
    ("chain_id", .string input.chainId),
    ("resource_bounds", input.resourceBounds.read ResourceBounds.toJs)]

/-- The argument of `build_snip36_payload`, in `buildPayload`: `{ ...input, nonce }`. -/
def Snip36PayloadInput.passed (input : Snip36PayloadInput) (fetched : String) : JsValue :=
  .object ([
    ("rpc_url", .string input.rpcUrl),
    ("sender_address", .string input.senderAddress),
    ("private_key", .string input.privateKey),
    ("call", input.call.toJs),
    ("proof_base64", .string input.proofBase64),
    ("proof_facts", jsTexts input.proofFacts),
    ("nonce", .string (nonceOr input.nonce fetched)),
    ("chain_id", .string input.chainId)]
    ++ input.resourceBounds.property "resource_bounds" ResourceBounds.toJs)

/-- The argument of `build_snip36_unsigned_payload`, in `buildUnsignedPayload`: the input. -/
def Snip36UnsignedPayloadInput.passed (input : Snip36UnsignedPayloadInput) : JsValue :=
  .object ([
    ("sender_address", .string input.senderAddress),
    ("call", input.call.toJs),
    ("proof_base64", .string input.proofBase64),
    ("proof_facts", jsTexts input.proofFacts),
    ("nonce", .string input.nonce),
    ("chain_id", .string input.chainId)]
    ++ input.resourceBounds.property "resource_bounds" ResourceBounds.toJs)

/-- The argument of `normalize_artifact`, in `normalizeArtifact`: the artifact. -/
def Snip36ProofArtifact.passed (artifact : Snip36ProofArtifact) : JsValue :=
  .object (
    [("version", .number artifact.version)]
    ++ artifact.blockNumber.property "block_number" .number
    ++ [("rpc_url", .string artifact.rpcUrl),
      ("chain_id", .string artifact.chainId),
      ("strk_fee_token_address", .string artifact.strkFeeTokenAddress)]
    ++ artifact.txHash.property "tx_hash" .string
    ++ [("transaction", artifact.transaction)]
    ++ artifact.executionPayload.property "execution_payload" .string
    ++ artifact.proofFactsPreimage.property "proof_facts_preimage" jsTexts
    ++ artifact.rawMessages.toList.map ("raw_messages", ·))

end Ts

/-! ### The same values -/

/-- An integer that a number has exactly. -/
def Safe (n : ℤ) : Prop := 0 ≤ n ∧ n < 2 ^ 53

namespace Ts

/-- The number that a price stands for. -/
def StringOrNumber.value? : StringOrNumber → Option ℕ
  | .number n => some n.toNat
  | .string s => hexNat? s <|> s.toNat?

def StringOrNumber.InRange : StringOrNumber → Prop
  | .number n => Safe n
  | .string _ => True

structure ResourceBound.InRange (bound : ResourceBound) : Prop where
  maxAmount : Safe bound.maxAmount
  maxPricePerUnit : bound.maxPricePerUnit.InRange

structure ResourceBounds.InRange (bounds : ResourceBounds) : Prop where
  l1Gas : bounds.l1Gas.InRange
  l2Gas : bounds.l2Gas.InRange
  l1DataGas : bounds.l1DataGas.InRange

/-- The Rust bound has the numbers of the TypeScript one. -/
structure ResourceBound.Same (bound : ResourceBound) (r : Signing.ResourceBound) : Prop where
  maxAmount : bound.maxAmount = r.maxAmount.toNat
  maxPricePerUnit : bound.maxPricePerUnit.value? = some r.maxPricePerUnit.toNat

structure ResourceBounds.Same (bounds : ResourceBounds) (r : Signing.ResourceBounds) : Prop where
  l1Gas : bounds.l1Gas.Same r.l1Gas
  l2Gas : bounds.l2Gas.Same r.l2Gas
  l1DataGas : bounds.l1DataGas.Same r.l1DataGas

/-- Bounds are given on both sides, with the same numbers, or on neither. -/
abbrev SameBounds (bounds : Nullable ResourceBounds) (r : Option Signing.ResourceBounds) : Prop :=
  Option.Rel ResourceBounds.Same bounds.toOption r

structure Snip36TransactionBuildInput.Same (input : Snip36TransactionBuildInput)
    (fetched : String) (r : Signing.Snip36TransactionInput) : Prop where
  senderAddress : r.senderAddress = input.senderAddress
  privateKey : r.privateKey = input.privateKey
  calldata : r.calldata = input.call.calldata
  nonce : r.nonce = nonceOr input.nonce fetched
  chainId : r.chainId = input.chainId
  resourceBounds : SameBounds input.resourceBounds r.resourceBounds

structure Snip36UnsignedTransactionBuildInput.Same (input : Snip36UnsignedTransactionBuildInput)
    (fetched : String) (r : Signing.Snip36UnsignedTransactionInput) : Prop where
  senderAddress : r.senderAddress = input.senderAddress
  calldata : r.calldata = input.calldata
  nonce : r.nonce = nonceOr input.nonce fetched
  chainId : r.chainId = input.chainId
  resourceBounds : SameBounds input.resourceBounds r.resourceBounds

structure Snip36PayloadInput.Same (input : Snip36PayloadInput) (fetched : String)
    (r : Signing.Snip36PayloadInput) : Prop where
  senderAddress : r.senderAddress = input.senderAddress
  privateKey : r.privateKey = input.privateKey
  calldata : r.calldata = input.call.calldata
  proofBase64 : r.proofBase64 = input.proofBase64
  proofFacts : r.proofFacts = input.proofFacts
  nonce : r.nonce = nonceOr input.nonce fetched
  chainId : r.chainId = input.chainId
  resourceBounds : SameBounds input.resourceBounds r.resourceBounds

structure Snip36UnsignedPayloadInput.Same (input : Snip36UnsignedPayloadInput)
    (r : Signing.Snip36UnsignedPayloadInput) : Prop where
  senderAddress : r.senderAddress = input.senderAddress
  calldata : r.calldata = input.call.calldata
  proofBase64 : r.proofBase64 = input.proofBase64
  proofFacts : r.proofFacts = input.proofFacts
  nonce : r.nonce = input.nonce
  chainId : r.chainId = input.chainId
  resourceBounds : SameBounds input.resourceBounds r.resourceBounds

structure Snip36ProofArtifact.InRange (artifact : Snip36ProofArtifact) : Prop where
  version : 0 ≤ artifact.version ∧ artifact.version < 2 ^ 32
  blockNumber : ∀ n, artifact.blockNumber.toOption = some n → Safe n

structure Snip36ProofArtifact.Same (artifact : Snip36ProofArtifact)
    (r : Artifacts.Snip36ProofArtifact) : Prop where
  version : artifact.version = r.version.toNat
  blockNumber : artifact.blockNumber.toOption = some (r.blockNumber.toNat : ℤ)
  rpcUrl : r.rpcUrl = artifact.rpcUrl
  chainId : r.chainId = artifact.chainId
  strkFeeTokenAddress : r.strkFeeTokenAddress = artifact.strkFeeTokenAddress
  txHash : r.txHash = artifact.txHash.toOption
  transaction : artifact.transaction.toJson = some r.transaction
  executionPayload : r.executionPayload = artifact.executionPayload.toOption
  proofFactsPreimage : r.proofFactsPreimage = artifact.proofFactsPreimage.toOption
  rawMessages : Option.Rel (fun v json => v.toJson = some json)
    (artifact.rawMessages.filter fun v => !v.isNullish) r.rawMessages

end Ts

namespace JsValue

mutual

/-- A value that is read as JSON: no part of it is foreign to JSON, or a bigint out of range. -/
def IsJson : JsValue → Prop
  | .undefined | .null | .bool _ | .number _ | .float _ | .string _ => True
  | .array elems => AreJson elems
  | .object fields => AreJsonFields fields
  | .bigint n => -2 ^ 63 ≤ n ∧ n < 2 ^ 64
  | .foreign json => json.isSome

def AreJson : List JsValue → Prop
  | [] => True
  | v :: vs => v.IsJson ∧ AreJson vs

def AreJsonFields : List (String × JsValue) → Prop
  | [] => True
  | (_, v) :: fields => v.IsJson ∧ AreJsonFields fields

end

mutual

theorem exists_toJson_iff : ∀ v : JsValue, (∃ json, v.toJson = some json) ↔ v.IsJson
  | .undefined | .null | .bool _ | .number _ | .float _ | .string _ => by simp [toJson, IsJson]
  | .array elems => by
      rw [IsJson, ← exists_toJsons_iff elems]
      simp [toJson, Option.map_eq_some_iff]
  | .object fields => by
      rw [IsJson, ← exists_toFields_iff fields]
      simp [toJson, Option.map_eq_some_iff]
  | .bigint n => by
      rw [IsJson, toJson]
      split
      · next h => exact iff_of_true ⟨_, rfl⟩ h
      · next h => exact iff_of_false nofun h
  | .foreign json => by
      rw [IsJson, toJson, Option.isSome_iff_exists]

theorem exists_toJsons_iff : ∀ vs : List JsValue, (∃ jsons, toJsons vs = some jsons) ↔ AreJson vs
  | [] => by simp [toJsons, AreJson]
  | v :: vs => by
      rw [AreJson, ← exists_toJson_iff v, ← exists_toJsons_iff vs]
      simp [toJsons, Option.bind_eq_some_iff]

theorem exists_toFields_iff : ∀ fields : List (String × JsValue),
    (∃ jsons, toFields fields = some jsons) ↔ AreJsonFields fields
  | [] => by simp [toFields, AreJsonFields]
  | (key, v) :: fields => by
      rw [AreJsonFields, ← exists_toJson_iff v, ← exists_toFields_iff fields]
      simp [toFields, Option.bind_eq_some_iff]

end

@[simp] theorem texts_jsTexts (ss : List String) : (jsTexts ss).texts = some ss := by
  induction ss with
  | nil => rfl
  | cons s ss ih =>
      rw [jsTexts, texts] at ih
      rw [jsTexts, texts, List.map_cons, List.mapM_cons, ih]
      rfl

@[simp] theorem text_string (s : String) : (JsValue.string s).text = some s := rfl

theorem unsigned_of {w : ℕ} {n : ℤ} (h : 0 ≤ n ∧ n < 2 ^ w) :
    unsigned w n = some (BitVec.ofInt w n) :=
  if_pos h

theorem toNat_ofInt {w : ℕ} {n : ℤ} (h : 0 ≤ n ∧ n < 2 ^ w) :
    ((BitVec.ofInt w n).toNat : ℤ) = n := by
  rw [BitVec.toNat_ofInt, Int.toNat_of_nonneg]
  · push_cast
    exact Int.emod_eq_of_lt h.1 h.2
  · push_cast
    exact Int.emod_nonneg _ (by positivity)

end JsValue

/-! ### What is decoded -/

namespace Ts
open JsValue

/-- **No bound is decoded**: its price is a text or a number. -/
theorem ResourceBound.resourceBound_toJs (bound : ResourceBound) :
    bound.toJs.resourceBound = none := by
  obtain ⟨maxAmount, price⟩ := bound
  cases price <;>
    simp [toJs, StringOrNumber.toJs, resourceBound, required, u128]

theorem ResourceBounds.resourceBounds_toJs (bounds : ResourceBounds) :
    bounds.toJs.resourceBounds = none := by
  simp [toJs, resourceBounds, required, ResourceBound.resourceBound_toJs]

/-- The bounds, when they are given, are in range. -/
def BoundsInRange (bounds : Nullable ResourceBounds) : Prop :=
  ∀ b, bounds.toOption = some b → b.InRange

/-- **Optional bounds are decoded when there are none.** -/
theorem optionalBounds_iff {bounds : Nullable ResourceBounds} (key : String) (v : JsValue)
    (hfield : v.field key = some (bounds.read ResourceBounds.toJs)) :
    (∃ r, v.optional resourceBounds key = some r ∧ SameBounds bounds r) ↔
      bounds.toOption = none := by
  unfold JsValue.optional
  rw [hfield]
  cases bounds with
  | value b =>
      refine iff_of_false ?_ (Option.some_ne_none b)
      rintro ⟨r, hr, -⟩
      have hnull : b.toJs.isNullish = false := rfl
      simp only [Nullable.read, hnull, Bool.false_eq_true, if_false,
        ResourceBounds.resourceBounds_toJs, Option.map_none] at hr
      cases hr
  | missing | undefined | null => exact iff_of_true ⟨none, rfl, .none⟩ rfl

/-- The decoder finds every field, and is left with the bounds. -/
theorem Snip36TransactionBuildInput.transactionInput_passed (input : Snip36TransactionBuildInput)
    (fetched : String) :
    (input.passed fetched).transactionInput
      = ((input.passed fetched).optional JsValue.resourceBounds "resource_bounds").map fun bounds =>
          ⟨input.senderAddress, input.privateKey, input.call.calldata,
            nonceOr input.nonce fetched, input.chainId, bounds⟩ := by
  simp only [transactionInput, passed, required, field_cons, Option.bind_eq_bind]
  simp [Option.map_eq_bind]

theorem Snip36TransactionBuildInput.decodes_iff (input : Snip36TransactionBuildInput)
    (fetched : String) :
    (∃ r, (input.passed fetched).transactionInput = some r ∧ input.Same fetched r) ↔
      input.resourceBounds.toOption = none := by
  rw [← optionalBounds_iff "resource_bounds" (input.passed fetched) rfl,
    input.transactionInput_passed]
  simp only [Option.map_eq_some_iff]
  constructor
  · rintro ⟨_, ⟨bounds, hbounds, rfl⟩, hsame⟩
    exact ⟨bounds, hbounds, hsame.resourceBounds⟩
  · rintro ⟨bounds, hbounds, hsame⟩
    exact ⟨_, ⟨bounds, hbounds, rfl⟩, rfl, rfl, rfl, rfl, rfl, hsame⟩

theorem Snip36UnsignedTransactionBuildInput.unsignedTransactionInput_passed
    (input : Snip36UnsignedTransactionBuildInput) (fetched : String) :
    (input.passed fetched).unsignedTransactionInput
      = ((input.passed fetched).optional JsValue.resourceBounds "resource_bounds").map fun bounds =>
          ⟨input.senderAddress, input.calldata, nonceOr input.nonce fetched, input.chainId,
            bounds⟩ := by
  simp only [unsignedTransactionInput, passed, required, field_cons, Option.bind_eq_bind]
  simp [Option.map_eq_bind]

theorem Snip36UnsignedTransactionBuildInput.decodes_iff
    (input : Snip36UnsignedTransactionBuildInput) (fetched : String) :
    (∃ r, (input.passed fetched).unsignedTransactionInput = some r ∧ input.Same fetched r) ↔
      input.resourceBounds.toOption = none := by
  rw [← optionalBounds_iff "resource_bounds" (input.passed fetched) rfl,
    input.unsignedTransactionInput_passed]
  simp only [Option.map_eq_some_iff]
  constructor
  · rintro ⟨_, ⟨bounds, hbounds, rfl⟩, hsame⟩
    exact ⟨bounds, hbounds, hsame.resourceBounds⟩
  · rintro ⟨bounds, hbounds, hsame⟩
    exact ⟨_, ⟨bounds, hbounds, rfl⟩, rfl, rfl, rfl, rfl, hsame⟩

/-- **A payload input has no calldata of its own.** -/
theorem Snip36PayloadInput.payloadInput_passed (input : Snip36PayloadInput) (fetched : String) :
    (input.passed fetched).payloadInput = none := by
  have hcalldata : (input.passed fetched).required texts "calldata" = none := by
    cases hbounds : input.resourceBounds <;>
      simp [passed, required, hbounds, Nullable.property]
  simp [payloadInput, hcalldata]

theorem Snip36UnsignedPayloadInput.unsignedPayloadInput_passed
    (input : Snip36UnsignedPayloadInput) : input.passed.unsignedPayloadInput = none := by
  have hcalldata : input.passed.required texts "calldata" = none := by
    cases hbounds : input.resourceBounds <;>
      simp [passed, required, hbounds, Nullable.property]
  simp [unsignedPayloadInput, hcalldata]

/-- An optional property is decoded as an `Option`. -/
theorem optional_of_there {α : Type} (decode : JsValue → Option α) {encode : α → JsValue}
    (hdecode : ∀ a, decode (encode a) = some a) (hnull : ∀ a, (encode a).isNullish = false)
    {key : String} {v : JsValue} {x : Nullable α} (hfield : v.field key = x.there encode) :
    v.optional decode key = some x.toOption := by
  unfold JsValue.optional
  rw [hfield]
  cases x with
  | value a =>
      simp only [Nullable.there, Nullable.read, Nullable.toOption, hdecode a, hnull a,
        Bool.false_eq_true, if_false, Option.map_some]
  | missing | undefined | null => rfl

/-- The fields of an artifact, where the decoder looks for them. -/
theorem Snip36ProofArtifact.field_passed (artifact : Snip36ProofArtifact) :
    artifact.passed.field "version" = some (.number artifact.version) ∧
      artifact.passed.field "block_number" = artifact.blockNumber.there .number ∧
      artifact.passed.field "rpc_url" = some (.string artifact.rpcUrl) ∧
      artifact.passed.field "chain_id" = some (.string artifact.chainId) ∧
      artifact.passed.field "strk_fee_token_address"
        = some (.string artifact.strkFeeTokenAddress) ∧
      artifact.passed.field "tx_hash" = artifact.txHash.there .string ∧
      artifact.passed.field "transaction" = some artifact.transaction ∧
      artifact.passed.field "execution_payload" = artifact.executionPayload.there .string ∧
      artifact.passed.field "proof_facts_preimage" = artifact.proofFactsPreimage.there jsTexts ∧
      artifact.passed.field "raw_messages" = artifact.rawMessages := by
  have hraw : ∀ key,
      JsValue.field key (.object (artifact.rawMessages.toList.map ("raw_messages", ·)))
        = if key = "raw_messages" then artifact.rawMessages else none := by
    intro key
    cases artifact.rawMessages <;> simp
  refine ⟨?_, ?_, ?_, ?_, ?_, ?_, ?_, ?_, ?_, ?_⟩ <;>
    simp only [passed, field_append, field_property, field_cons, field_nil, hraw, String.reduceEq,
      if_true, if_false, Option.none_or, Option.or_none]

/-- The decoder of an artifact is left with the fields that may be refused. -/
theorem Snip36ProofArtifact.proofArtifact_passed {artifact : Snip36ProofArtifact}
    (h : artifact.InRange) :
    artifact.passed.proofArtifact = (do
      let blockNumber ← (artifact.blockNumber.there .number).bind u64
      let transaction ← artifact.transaction.toJson
      let rawMessages ← artifact.passed.optional toJson "raw_messages"
      pure ⟨.ofInt 32 artifact.version, blockNumber, artifact.rpcUrl, artifact.chainId,
        artifact.strkFeeTokenAddress, artifact.txHash.toOption, transaction,
        artifact.executionPayload.toOption, artifact.proofFactsPreimage.toOption,
        rawMessages⟩) := by
  obtain ⟨h₁, h₂, h₃, h₄, h₅, h₆, h₇, h₈, h₉, -⟩ := artifact.field_passed
  have hversion : u32 (.number artifact.version) = some (.ofInt 32 artifact.version) :=
    unsigned_of h.version
  have htx := optional_of_there text text_string (fun _ => rfl) h₆
  have hpayload := optional_of_there text text_string (fun _ => rfl) h₈
  have hfacts := optional_of_there texts texts_jsTexts (fun _ => rfl) h₉
  simp only [proofArtifact, required, h₁, h₂, h₃, h₄, h₅, h₇, htx, hpayload, hfacts, hversion,
    text_string, Option.bind_eq_bind, Option.bind_some]

/-- **An artifact is decoded when it has a block number and its untyped fields are JSON.** -/
theorem Snip36ProofArtifact.decodes_iff {artifact : Snip36ProofArtifact}
    (h : artifact.InRange) :
    (∃ r, artifact.passed.proofArtifact = some r ∧ artifact.Same r) ↔
      (∃ n, artifact.blockNumber = .value n) ∧ artifact.transaction.IsJson ∧
        ∀ v ∈ artifact.rawMessages, v.IsJson := by
  have hraw := artifact.field_passed.2.2.2.2.2.2.2.2.2
  rw [proofArtifact_passed h]
  simp only [Option.bind_eq_bind, Option.bind_eq_some_iff, Option.pure_def, Option.some.injEq]
  constructor
  · rintro ⟨_, ⟨blockNumber, ⟨_, hblock, -⟩, transaction, htx, rawMessages, hmessages, rfl⟩, hsame⟩
    refine ⟨?_, (exists_toJson_iff _).mp ⟨_, htx⟩, fun v hv => ?_⟩
    · have hn := hsame.blockNumber
      cases hb : artifact.blockNumber <;> simp_all [Nullable.toOption]
    · by_cases hnull : v.isNullish = true
      · cases v <;> trivial
      · unfold JsValue.optional at hmessages
        rw [hraw, hv] at hmessages
        simp only [hnull, Bool.false_eq_true, if_false, Option.map_eq_some_iff] at hmessages
        obtain ⟨json, hjson, -⟩ := hmessages
        exact (exists_toJson_iff v).mp ⟨json, hjson⟩
  · rintro ⟨⟨n, hn⟩, htx, hmessages⟩
    have hrange : 0 ≤ n ∧ n < 2 ^ 64 := by
      have hsafe := h.blockNumber n (by rw [hn]; rfl)
      simp only [Safe] at hsafe
      omega
    obtain ⟨json, hjson⟩ := (exists_toJson_iff _).mpr htx
    have hrel : ∃ r, artifact.passed.optional toJson "raw_messages" = some r ∧
        Option.Rel (fun v json => v.toJson = some json)
          (artifact.rawMessages.filter fun v => !v.isNullish) r := by
      unfold JsValue.optional
      rw [hraw]
      cases hv : artifact.rawMessages with
      | none => exact ⟨none, rfl, .none⟩
      | some v =>
          by_cases hnull : v.isNullish = true
          · have hfilter : (some v).filter (fun v => !v.isNullish) = none := by
              simp [Option.filter, hnull]
            exact ⟨none, by simp [hnull], by rw [hfilter]; exact .none⟩
          · obtain ⟨j, hj⟩ := (exists_toJson_iff v).mpr (hmessages v hv)
            have hfilter : (some v).filter (fun v => !v.isNullish) = some v := by
              simp [Option.filter, hnull]
            exact ⟨some j, by simp [hnull, hj], by rw [hfilter]; exact .some hj⟩
    obtain ⟨rawMessages, hmessages', hsame⟩ := hrel
    refine ⟨_, ⟨.ofInt 64 n, ⟨.number n, by rw [hn]; rfl, unsigned_of hrange⟩, json, hjson,
      rawMessages, hmessages', rfl⟩, ?_⟩
    exact {
      version := (toNat_ofInt h.version).symm
      blockNumber := by
        rw [hn, toNat_ofInt hrange]
        rfl
      rpcUrl := rfl
      chainId := rfl
      strkFeeTokenAddress := rfl
      txHash := rfl
      transaction := hjson
      executionPayload := rfl
      proofFactsPreimage := rfl
      rawMessages := hsame }

/-! ### The five records -/

/-- A value that `index.ts` passes to be decoded, with the nonce that it has fetched for it. -/
inductive WasmInput where
  | transaction (input : Snip36TransactionBuildInput) (fetched : String)
  | unsignedTransaction (input : Snip36UnsignedTransactionBuildInput) (fetched : String)
  | payload (input : Snip36PayloadInput) (fetched : String)
  | unsignedPayload (input : Snip36UnsignedPayloadInput)
  | proofArtifact (artifact : Snip36ProofArtifact)

namespace WasmInput

/-- The numbers are in range. -/
def InRange : WasmInput → Prop
  | .transaction input _ => BoundsInRange input.resourceBounds
  | .unsignedTransaction input _ => BoundsInRange input.resourceBounds
  | .payload input _ => BoundsInRange input.resourceBounds
  | .unsignedPayload input => BoundsInRange input.resourceBounds
  | .proofArtifact artifact => artifact.InRange

/-- What is passed is decoded into a record with the same values. -/
def Decodes : WasmInput → Prop
  | .transaction input fetched =>
      ∃ r, (input.passed fetched).transactionInput = some r ∧ input.Same fetched r
  | .unsignedTransaction input fetched =>
      ∃ r, (input.passed fetched).unsignedTransactionInput = some r ∧ input.Same fetched r
  | .payload input fetched =>
      ∃ r, (input.passed fetched).payloadInput = some r ∧ input.Same fetched r
  | .unsignedPayload input => ∃ r, input.passed.unsignedPayloadInput = some r ∧ input.Same r
  | .proofArtifact artifact => ∃ r, artifact.passed.proofArtifact = some r ∧ artifact.Same r

/-- The fields have what both sides know: no resource bounds, a block number, JSON.  A payload input
has a call in the place of its calldata. -/
def Shared : WasmInput → Prop
  | .transaction input _ => input.resourceBounds.toOption = none
  | .unsignedTransaction input _ => input.resourceBounds.toOption = none
  | .payload .. | .unsignedPayload _ => False
  | .proofArtifact artifact => (∃ n, artifact.blockNumber = .value n) ∧
      artifact.transaction.IsJson ∧ ∀ v ∈ artifact.rawMessages, v.IsJson

end WasmInput

end Ts

/-- Bounds with a price. -/
def sampleBounds (price : Ts.StringOrNumber) : Ts.ResourceBounds where
  l1Gas := ⟨0, price⟩
  l2Gas := ⟨0x7000000, .number 0⟩
  l1DataGas := ⟨0x1b0, .number 0⟩

/-- A call of an account. -/
def sampleCall : Ts.Call := ⟨"0x5", "increment", ["0x1"]⟩

/-- An unsigned transaction input with bounds. -/
def sampleUnsigned (bounds : Nullable Ts.ResourceBounds) :
    Ts.Snip36UnsignedTransactionBuildInput where
  rpcUrl := "http://127.0.0.1:9545"
  senderAddress := "0x123"
  calldata := ["0x1"]
  nonce := .null
  chainId := "SN_SEPOLIA"
  resourceBounds := bounds

/-- A transaction input with bounds. -/
def sampleSigned (bounds : Nullable Ts.ResourceBounds) : Ts.Snip36TransactionBuildInput where
  rpcUrl := "http://127.0.0.1:9545"
  senderAddress := "0x123"
  privateKey := "0x1"
  call := sampleCall
  nonce := .missing
  chainId := "SN_SEPOLIA"
  resourceBounds := bounds

/-- An artifact with a block number, or none. -/
def sampleTsArtifact (blockNumber : Nullable ℤ) : Ts.Snip36ProofArtifact where
  version := 1
  blockNumber := blockNumber
  rpcUrl := "http://127.0.0.1:9545"
  chainId := "SN_SEPOLIA"
  strkFeeTokenAddress := "0x4"
  txHash := .null
  transaction := .object [("type", .string "INVOKE")]
  executionPayload := .null
  proofFactsPreimage := .null
  rawMessages := some .null

theorem sampleBounds_inRange (price : Ts.StringOrNumber) (h : price.InRange) :
    Ts.BoundsInRange (.value (sampleBounds price)) := by
  intro b hb
  obtain rfl := Option.some.inj hb
  have hzero : (Ts.StringOrNumber.number 0).InRange := by simp [Ts.StringOrNumber.InRange, Safe]
  exact ⟨⟨by simp [sampleBounds, Safe], h⟩, ⟨by simp [sampleBounds, Safe], hzero⟩,
    ⟨by simp [sampleBounds, Safe], hzero⟩⟩

theorem sampleTsArtifact_inRange (blockNumber : Nullable ℤ)
    (h : ∀ n, blockNumber.toOption = some n → Safe n) :
    (sampleTsArtifact blockNumber).InRange :=
  ⟨by simp [sampleTsArtifact], h⟩

end Snip36.Npm
