import Snip36.Signing.Hash
import Snip36.Support.Fallible
import Snip36.Support.Hex

/-!
# Signing — transactions and payloads

Five functions of the pure crate and one of the core crate compute the hash of a transaction, have
it signed or not, and write the transaction out as JSON.  The arguments of the hash and the fields
of the JSON are written down separately in each.

`decodeInvokeV3` reads a transaction back, as a node does.  `builders_hash` says that whatever any
of the six emits reads back to a transaction whose hash is the one returned, and that a signed one
carries the signature of that hash.
-/

namespace Snip36.Signing
open Support

/-! ### Felts as texts, and the curve -/

/-- `format!("{:#x}", felt)`. -/
def fmtFelt (f : Felt) : String := hexOf f.val

theorem fmtFelt_injective : Function.Injective fmtFelt :=
  fun _ _ h => Fin.ext (hexOf_injective h)

/-- `Felt::from_hex`. -/
structure FeltHex where
  fromHex : String → Except String Felt
  fromHex_fmtFelt : ∀ f, fromHex (fmtFelt f) = .ok f

/-- The functions of `starknet_crypto`. -/
structure StarknetCrypto where
  poseidonHashMany : List Felt → Felt
  /-- `rfc6979_generate_k`, of a message hash and a private key, with no seed. -/
  rfc6979GenerateK : Felt → Felt → Felt
  /-- `sign`, of a private key, a message hash and `k`. -/
  sign : Felt → Felt → Felt → Except String (Felt × Felt)

/-- `felt_from_hex`. -/
def feltFromHex (fh : FeltHex) (hexStr : String) : Except String Felt :=
  (fh.fromHex hexStr).mapError fun e => "invalid felt hex '" ++ hexStr ++ "': " ++ e

/-- `Signature`. -/
structure Signature where
  r : Felt
  s : Felt

/-- `SignError`. -/
inductive SignError where
  | ecdsa (msg : String)

/-- `SignError::to_string`. -/
def SignError.toString : SignError → String
  | .ecdsa msg => "ECDSA signing failed: " ++ msg

/-- `sign`. -/
def sign (sc : StarknetCrypto) (privateKey messageHash : Felt) : Except SignError Signature := do
  let k := sc.rfc6979GenerateK messageHash privateKey
  let sig ← (sc.sign privateKey messageHash k).mapError .ecdsa
  pure ⟨sig.1, sig.2⟩

/-! ### Resource bounds -/

/-- `SEPOLIA_GAS_PRICE_CEIL`. -/
def sepoliaGasPriceCeil : BitVec 128 := 0x38d7ea4c68000

/-- `ResourceBounds::default`. -/
def ResourceBounds.default : ResourceBounds where
  l1Gas := ⟨0x10000, sepoliaGasPriceCeil⟩
  l2Gas := ⟨0x7000000, 0x1dcd65000⟩
  l1DataGas := ⟨0x1b0, sepoliaGasPriceCeil⟩

/-- `ResourceBounds::zero_fee`. -/
def ResourceBounds.zeroFee : ResourceBounds where
  l1Gas := ⟨0, 0⟩
  l2Gas := ⟨0x7000000, 0⟩
  l1DataGas := ⟨0x1b0, 0⟩

/-- `ResourceBounds::playground`. -/
def ResourceBounds.playground : ResourceBounds where
  l1Gas := ⟨0, sepoliaGasPriceCeil⟩
  l2Gas := ⟨0x2000000, 0x2cb417800⟩
  l1DataGas := ⟨0x1b0, sepoliaGasPriceCeil⟩

/-- One entry of `to_rpc_json`. -/
def ResourceBound.toRpcJson (bound : ResourceBound) : Json :=
  .obj [
    ("max_amount", .str (hexOf bound.maxAmount.toNat)),
    ("max_price_per_unit", .str (hexOf bound.maxPricePerUnit.toNat))]

/-- `ResourceBounds::to_rpc_json`. -/
def ResourceBounds.toRpcJson (bounds : ResourceBounds) : Json :=
  .obj [
    ("l1_gas", bounds.l1Gas.toRpcJson),
    ("l2_gas", bounds.l2Gas.toRpcJson),
    ("l1_data_gas", bounds.l1DataGas.toRpcJson)]

/-! ### Inputs and outputs -/

/-- `SubmitParams`. -/
structure SubmitParams where
  senderAddress : Felt
  privateKey : Felt
  calldata : List Felt
  proofBase64 : String
  proofFacts : List Felt
  nonce : Felt
  chainId : Felt
  resourceBounds : ResourceBounds

/-- `Snip36TransactionInput`. -/
structure Snip36TransactionInput where
  senderAddress : String
  privateKey : String
  calldata : List String
  nonce : String
  chainId : String
  resourceBounds : Option ResourceBounds

/-- `Snip36UnsignedTransactionInput`. -/
structure Snip36UnsignedTransactionInput where
  senderAddress : String
  calldata : List String
  nonce : String
  chainId : String
  resourceBounds : Option ResourceBounds

/-- `Snip36PayloadInput`. -/
structure Snip36PayloadInput where
  senderAddress : String
  privateKey : String
  calldata : List String
  proofBase64 : String
  proofFacts : List String
  nonce : String
  chainId : String
  resourceBounds : Option ResourceBounds

/-- `Snip36UnsignedPayloadInput`. -/
structure Snip36UnsignedPayloadInput where
  senderAddress : String
  calldata : List String
  proofBase64 : String
  proofFacts : List String
  nonce : String
  chainId : String
  resourceBounds : Option ResourceBounds

/-- `Snip36TransactionOutput` and `Snip36UnsignedTransactionOutput`. -/
structure Snip36TransactionOutput where
  txHash : String
  transaction : Json

/-- `Snip36PayloadOutput` and `Snip36UnsignedPayloadOutput`. -/
structure Snip36PayloadOutput where
  txHash : String
  payload : Json

/-! ### The builders -/

section Builders

variable (fh : FeltHex) (sc : StarknetCrypto)

/-- The array of some texts. -/
def strings (ss : List String) : Json := .arr (ss.map .str)

/-- `sign_and_build_payload`. -/
def signAndBuildPayload (params : SubmitParams) : Except SignError (Felt × Json) := do
  let txHash := computeInvokeV3TxHash sc.poseidonHashMany {
    senderAddress := params.senderAddress
    calldata := params.calldata
    chainId := params.chainId
    nonce := params.nonce
    tip := 0
    resourceBounds := params.resourceBounds
    paymasterData := []
    accountDeploymentData := []
    nonceDaMode := 0
    feeDaMode := 0
    proofFacts := params.proofFacts }
  let sig ← sign sc params.privateKey txHash
  let calldataHex := params.calldata.map fmtFelt
  let proofFactsHex := params.proofFacts.map fmtFelt
  let payload : Json := .obj [
    ("type", .str "INVOKE"),
    ("version", .str "0x3"),
    ("sender_address", .str (fmtFelt params.senderAddress)),
    ("calldata", strings calldataHex),
    ("nonce", .str (fmtFelt params.nonce)),
    ("resource_bounds", params.resourceBounds.toRpcJson),
    ("tip", .str "0x0"),
    ("paymaster_data", .arr []),
    ("account_deployment_data", .arr []),
    ("nonce_data_availability_mode", .str "L1"),
    ("fee_data_availability_mode", .str "L1"),
    ("signature", strings [fmtFelt sig.r, fmtFelt sig.s]),
    ("proof", .str params.proofBase64),
    ("proof_facts", strings proofFactsHex)]
  pure (txHash, payload)

/-- `build_transaction_from_json`. -/
def buildTransactionFromJson (input : Snip36TransactionInput) :
    Except String Snip36TransactionOutput := do
  let senderAddress ← feltFromHex fh input.senderAddress
  let privateKey ← feltFromHex fh input.privateKey
  let calldata ← input.calldata.mapM (feltFromHex fh)
  let nonce ← feltFromHex fh input.nonce
  let params : SubmitParams := {
    senderAddress
    privateKey
    calldata
    proofBase64 := ""
    proofFacts := []
    nonce
    chainId := chainIdFelt input.chainId
    resourceBounds := input.resourceBounds.getD .zeroFee }
  let txHash := computeInvokeV3TxHash sc.poseidonHashMany {
    senderAddress := params.senderAddress
    calldata := params.calldata
    chainId := params.chainId
    nonce := params.nonce
    tip := 0
    resourceBounds := params.resourceBounds
    paymasterData := []
    accountDeploymentData := []
    nonceDaMode := 0
    feeDaMode := 0
    proofFacts := [] }
  let sig ← (sign sc params.privateKey txHash).mapError SignError.toString
  let calldataHex := params.calldata.map fmtFelt
  let transaction : Json := .obj [
    ("type", .str "INVOKE"),
    ("version", .str "0x3"),
    ("sender_address", .str input.senderAddress),
    ("calldata", strings calldataHex),
    ("nonce", .str (fmtFelt params.nonce)),
    ("resource_bounds", params.resourceBounds.toRpcJson),
    ("tip", .str "0x0"),
    ("paymaster_data", .arr []),
    ("account_deployment_data", .arr []),
    ("nonce_data_availability_mode", .str "L1"),
    ("fee_data_availability_mode", .str "L1"),
    ("signature", strings [fmtFelt sig.r, fmtFelt sig.s])]
  pure ⟨fmtFelt txHash, transaction⟩

/-- `build_unsigned_transaction_from_json`. -/
def buildUnsignedTransactionFromJson (input : Snip36UnsignedTransactionInput) :
    Except String Snip36TransactionOutput := do
  let senderAddress ← feltFromHex fh input.senderAddress
  let calldata ← input.calldata.mapM (feltFromHex fh)
  let nonce ← feltFromHex fh input.nonce
  let chainId := chainIdFelt input.chainId
  let resourceBounds := input.resourceBounds.getD .zeroFee
  let txHash := computeInvokeV3TxHash sc.poseidonHashMany {
    senderAddress
    calldata
    chainId
    nonce
    tip := 0
    resourceBounds
    paymasterData := []
    accountDeploymentData := []
    nonceDaMode := 0
    feeDaMode := 0
    proofFacts := [] }
  let calldataHex := calldata.map fmtFelt
  let transaction : Json := .obj [
    ("type", .str "INVOKE"),
    ("version", .str "0x3"),
    ("sender_address", .str input.senderAddress),
    ("calldata", strings calldataHex),
    ("nonce", .str (fmtFelt nonce)),
    ("resource_bounds", resourceBounds.toRpcJson),
    ("tip", .str "0x0"),
    ("paymaster_data", .arr []),
    ("account_deployment_data", .arr []),
    ("nonce_data_availability_mode", .str "L1"),
    ("fee_data_availability_mode", .str "L1"),
    ("signature", .arr [])]
  pure ⟨fmtFelt txHash, transaction⟩

/-- `build_payload_from_json`. -/
def buildPayloadFromJson (input : Snip36PayloadInput) : Except String Snip36PayloadOutput := do
  let senderAddress ← feltFromHex fh input.senderAddress
  let privateKey ← feltFromHex fh input.privateKey
  let calldata ← input.calldata.mapM (feltFromHex fh)
  let proofFacts ← input.proofFacts.mapM (feltFromHex fh)
  let nonce ← feltFromHex fh input.nonce
  let params : SubmitParams := {
    senderAddress
    privateKey
    calldata
    proofBase64 := input.proofBase64
    proofFacts
    nonce
    chainId := chainIdFelt input.chainId
    resourceBounds := input.resourceBounds.getD .default }
  let built ← (signAndBuildPayload sc params).mapError SignError.toString
  pure ⟨fmtFelt built.1, built.2⟩

/-- `build_unsigned_payload_from_json`. -/
def buildUnsignedPayloadFromJson (input : Snip36UnsignedPayloadInput) :
    Except String Snip36PayloadOutput := do
  let senderAddress ← feltFromHex fh input.senderAddress
  let calldata ← input.calldata.mapM (feltFromHex fh)
  let proofFacts ← input.proofFacts.mapM (feltFromHex fh)
  let nonce ← feltFromHex fh input.nonce
  let chainId := chainIdFelt input.chainId
  let resourceBounds := input.resourceBounds.getD .default
  let txHash := computeInvokeV3TxHash sc.poseidonHashMany {
    senderAddress
    calldata
    chainId
    nonce
    tip := 0
    resourceBounds
    paymasterData := []
    accountDeploymentData := []
    nonceDaMode := 0
    feeDaMode := 0
    proofFacts }
  let calldataHex := calldata.map fmtFelt
  let proofFactsHex := proofFacts.map fmtFelt
  let payload : Json := .obj [
    ("type", .str "INVOKE"),
    ("version", .str "0x3"),
    ("sender_address", .str (fmtFelt senderAddress)),
    ("calldata", strings calldataHex),
    ("nonce", .str (fmtFelt nonce)),
    ("resource_bounds", resourceBounds.toRpcJson),
    ("tip", .str "0x0"),
    ("paymaster_data", .arr []),
    ("account_deployment_data", .arr []),
    ("nonce_data_availability_mode", .str "L1"),
    ("fee_data_availability_mode", .str "L1"),
    ("signature", .arr []),
    ("proof", .str input.proofBase64),
    ("proof_facts", strings proofFactsHex)]
  pure ⟨fmtFelt txHash, payload⟩

/-- `sign_and_build_payload` of the core crate. -/
def Core.signAndBuildPayload (params : SubmitParams) : Except SignError (Felt × Json) := do
  let txHash := Core.computeInvokeV3TxHash sc.poseidonHashMany {
    senderAddress := params.senderAddress
    calldata := params.calldata
    chainId := params.chainId
    nonce := params.nonce
    tip := 0
    resourceBounds := params.resourceBounds
    paymasterData := []
    accountDeploymentData := []
    nonceDaMode := 0
    feeDaMode := 0
    proofFacts := params.proofFacts }
  let sig ← sign sc params.privateKey txHash
  let calldataHex := params.calldata.map fmtFelt
  let proofFactsHex := params.proofFacts.map fmtFelt
  let payload : Json := .obj [
    ("type", .str "INVOKE"),
    ("version", .str "0x3"),
    ("sender_address", .str (fmtFelt params.senderAddress)),
    ("calldata", strings calldataHex),
    ("nonce", .str (fmtFelt params.nonce)),
    ("resource_bounds", params.resourceBounds.toRpcJson),
    ("tip", .str "0x0"),
    ("paymaster_data", .arr []),
    ("account_deployment_data", .arr []),
    ("nonce_data_availability_mode", .str "L1"),
    ("fee_data_availability_mode", .str "L1"),
    ("signature", strings [fmtFelt sig.r, fmtFelt sig.s]),
    ("proof", .str params.proofBase64),
    ("proof_facts", strings proofFactsHex)]
  pure (txHash, payload)

end Builders

/-! ### Reading a transaction back -/

/-- A felt. -/
def feltValue (fh : FeltHex) : Json → Option Felt
  | .str s => (fh.fromHex s).toOption
  | _ => none

/-- A list of felts. -/
def feltValues (fh : FeltHex) : Json → Option (List Felt)
  | .arr elems => elems.mapM (feltValue fh)
  | _ => none

/-- An unsigned integer of `w` bits. -/
def wordValue (w : ℕ) : Json → Option (BitVec w)
  | .str s => (hexNat? s).bind fun n => if n < 2 ^ w then some (BitVec.ofNat w n) else none
  | _ => none

/-- A data-availability mode. -/
def daModeValue : Json → Option (BitVec 32)
  | .str s => if s = "L1" then some 0 else if s = "L2" then some 1 else none
  | _ => none

/-- One bound of a transaction. -/
def decodeBound (j : Json) : Option ResourceBound := do
  let maxAmount ← (j.field "max_amount").bind (wordValue 64)
  let maxPricePerUnit ← (j.field "max_price_per_unit").bind (wordValue 128)
  pure ⟨maxAmount, maxPricePerUnit⟩

/-- The bounds of a transaction. -/
def decodeBounds (j : Json) : Option ResourceBounds := do
  let l1Gas ← (j.field "l1_gas").bind decodeBound
  let l2Gas ← (j.field "l2_gas").bind decodeBound
  let l1DataGas ← (j.field "l1_data_gas").bind decodeBound
  pure ⟨l1Gas, l2Gas, l1DataGas⟩

/-- The proof facts of a transaction, none when it has no such field. -/
def decodeProofFacts (fh : FeltHex) (j : Json) : Option (List Felt) :=
  match j.field "proof_facts" with
  | some facts => feltValues fh facts
  | none => some []

/-- The signature of a transaction. -/
def decodeSignature (fh : FeltHex) (j : Json) : Option (List Felt) :=
  (j.field "signature").bind (feltValues fh)

/-- An invoke transaction of version 3, sent to a chain. -/
def decodeInvokeV3 (fh : FeltHex) (chainId : Felt) (j : Json) : Option InvokeV3 := do
  let type ← (j.field "type").bind Json.text
  guard (type = "INVOKE")
  let version ← (j.field "version").bind (feltValue fh)
  guard (version = 3)
  let senderAddress ← (j.field "sender_address").bind (feltValue fh)
  let calldata ← (j.field "calldata").bind (feltValues fh)
  let nonce ← (j.field "nonce").bind (feltValue fh)
  let resourceBounds ← (j.field "resource_bounds").bind decodeBounds
  let tip ← (j.field "tip").bind (feltValue fh)
  let paymasterData ← (j.field "paymaster_data").bind (feltValues fh)
  let accountDeploymentData ← (j.field "account_deployment_data").bind (feltValues fh)
  let nonceDaMode ← (j.field "nonce_data_availability_mode").bind daModeValue
  let feeDaMode ← (j.field "fee_data_availability_mode").bind daModeValue
  let proofFacts ← decodeProofFacts fh j
  pure {
    senderAddress, calldata, chainId, nonce, tip, resourceBounds, paymasterData,
    accountDeploymentData, nonceDaMode, feeDaMode, proofFacts }

section Decoding

variable {fh : FeltHex}

/-- The text of a number below the prime is that of its felt. -/
theorem fromHex_hexOf {k : ℕ} (hk : k < feltPrime) :
    fh.fromHex (hexOf k) = .ok (Felt.ofNat k) := by
  have h := fh.fromHex_fmtFelt (Felt.ofNat k)
  rwa [fmtFelt, Felt.val_ofNat hk] at h

theorem feltValue_of_fromHex {s : String} {f : Felt} (h : fh.fromHex s = .ok f) :
    feltValue fh (.str s) = some f := by
  rw [feltValue, h]
  rfl

@[simp] theorem feltValue_fmtFelt (f : Felt) : feltValue fh (.str (fmtFelt f)) = some f :=
  feltValue_of_fromHex (fh.fromHex_fmtFelt f)

@[simp] theorem feltValue_zero : feltValue fh (.str "0x0") = some 0 := feltValue_fmtFelt 0

@[simp] theorem feltValue_three : feltValue fh (.str "0x3") = some 3 := feltValue_fmtFelt 3

@[simp] theorem feltValues_strings (fs : List Felt) :
    feltValues fh (strings (fs.map fmtFelt)) = some fs := by
  induction fs with
  | nil => rfl
  | cons f fs ih =>
      simp only [feltValues, strings, List.map_map] at ih
      simp [feltValues, strings, ih]

@[simp] theorem feltValues_nil : feltValues fh (.arr []) = some [] := rfl

@[simp] theorem wordValue_hexOf {w : ℕ} (v : BitVec w) :
    wordValue w (.str (hexOf v.toNat)) = some v := by
  rw [wordValue, hexNat?_hexOf, Option.bind_some, if_pos v.isLt, BitVec.ofNat_toNat,
    BitVec.setWidth_eq]

@[simp] theorem decodeBound_toRpcJson (bound : ResourceBound) :
    decodeBound bound.toRpcJson = some bound := by
  simp [decodeBound, ResourceBound.toRpcJson]

/-- **Resource bounds read back.** -/
@[simp] theorem decodeBounds_toRpcJson (bounds : ResourceBounds) :
    decodeBounds bounds.toRpcJson = some bounds := by
  simp [decodeBounds, ResourceBounds.toRpcJson]

end Decoding

/-! ### What the builders hash, and what they write -/

/-- A transaction with no tip, no paymaster data, no account deployment data, and both modes
`L1`. -/
def builtTx (senderAddress : Felt) (calldata : List Felt) (chainId nonce : Felt)
    (resourceBounds : ResourceBounds) (proofFacts : List Felt) : InvokeV3 where
  senderAddress := senderAddress
  calldata := calldata
  chainId := chainId
  nonce := nonce
  tip := 0
  resourceBounds := resourceBounds
  paymasterData := []
  accountDeploymentData := []
  nonceDaMode := 0
  feeDaMode := 0
  proofFacts := proofFacts

/-- The fields that all six write, and those about a proof. -/
def builtJson (sender : String) (calldata : List Felt) (nonce : Felt) (bounds : ResourceBounds)
    (signature : List Felt) (proofFields : List (String × Json)) : Json :=
  .obj ([
    ("type", .str "INVOKE"),
    ("version", .str "0x3"),
    ("sender_address", .str sender),
    ("calldata", strings (calldata.map fmtFelt)),
    ("nonce", .str (fmtFelt nonce)),
    ("resource_bounds", bounds.toRpcJson),
    ("tip", .str "0x0"),
    ("paymaster_data", .arr []),
    ("account_deployment_data", .arr []),
    ("nonce_data_availability_mode", .str "L1"),
    ("fee_data_availability_mode", .str "L1"),
    ("signature", strings (signature.map fmtFelt))] ++ proofFields)

/-- The fields about a proof. -/
def proofFields (proofBase64 : String) (proofFacts : List Felt) : List (String × Json) :=
  [("proof", .str proofBase64), ("proof_facts", strings (proofFacts.map fmtFelt))]

section Built

variable {fh : FeltHex} {sender : String} {senderAddress : Felt} {calldata : List Felt}
  {chainId nonce : Felt} {bounds : ResourceBounds} {signature : List Felt}

theorem decodeSignature_builtJson {extra : List (String × Json)} :
    decodeSignature fh (builtJson sender calldata nonce bounds signature extra)
      = some signature := by
  simp [decodeSignature, builtJson]

/-- With no proof fields, the transaction has no proof facts. -/
theorem decodeInvokeV3_builtJson (hsender : fh.fromHex sender = .ok senderAddress) :
    decodeInvokeV3 fh chainId (builtJson sender calldata nonce bounds signature [])
      = some (builtTx senderAddress calldata chainId nonce bounds []) := by
  simp [decodeInvokeV3, decodeProofFacts, builtJson, builtTx, Json.text,
    daModeValue, feltValue_of_fromHex hsender]

/-- With proof fields, it has the ones written there. -/
theorem decodeInvokeV3_builtJson_proof {proofBase64 : String} {proofFacts : List Felt}
    (hsender : fh.fromHex sender = .ok senderAddress) :
    decodeInvokeV3 fh chainId
        (builtJson sender calldata nonce bounds signature (proofFields proofBase64 proofFacts))
      = some (builtTx senderAddress calldata chainId nonce bounds proofFacts) := by
  simp [decodeInvokeV3, decodeProofFacts, proofFields, builtJson, builtTx, Json.text, daModeValue,
    feltValue_of_fromHex hsender]

end Built

/-! ### What each builder returns -/

section Specs

variable {fh : FeltHex} {sc : StarknetCrypto}

/-- The hash of the transaction in some JSON. -/
def decodedHash (fh : FeltHex) (sc : StarknetCrypto) (chainId : Felt) (j : Json) : Option Felt :=
  (decodeInvokeV3 fh chainId j).map (computeInvokeV3TxHash sc.poseidonHashMany)

theorem decodedHash_builtJson {sender : String} {senderAddress : Felt} {calldata : List Felt}
    {chainId nonce : Felt} {bounds : ResourceBounds} {signature : List Felt}
    (hsender : fh.fromHex sender = .ok senderAddress) :
    decodedHash fh sc chainId (builtJson sender calldata nonce bounds signature [])
      = some (computeInvokeV3TxHash sc.poseidonHashMany
          (builtTx senderAddress calldata chainId nonce bounds [])) := by
  rw [decodedHash, decodeInvokeV3_builtJson hsender, Option.map_some]

theorem decodedHash_builtJson_proof {sender : String} {senderAddress : Felt}
    {calldata : List Felt} {chainId nonce : Felt} {bounds : ResourceBounds}
    {signature : List Felt} {proofBase64 : String} {proofFacts : List Felt}
    (hsender : fh.fromHex sender = .ok senderAddress) :
    decodedHash fh sc chainId
        (builtJson sender calldata nonce bounds signature (proofFields proofBase64 proofFacts))
      = some (computeInvokeV3TxHash sc.poseidonHashMany
          (builtTx senderAddress calldata chainId nonce bounds proofFacts)) := by
  rw [decodedHash, decodeInvokeV3_builtJson_proof hsender, Option.map_some]

/-- The JSON carries the signature of `txHash`. -/
def SignedBy (fh : FeltHex) (sc : StarknetCrypto) (privateKey txHash : Felt) (j : Json) : Prop :=
  ∃ sig, sign sc privateKey txHash = .ok sig ∧ decodeSignature fh j = some [sig.r, sig.s]

/-- The hash that `signAndBuildPayload` signs. -/
def SubmitParams.txHash (sc : StarknetCrypto) (params : SubmitParams) : Felt :=
  computeInvokeV3TxHash sc.poseidonHashMany
    (builtTx params.senderAddress params.calldata params.chainId params.nonce
      params.resourceBounds params.proofFacts)

/-- The JSON that `signAndBuildPayload` writes. -/
def SubmitParams.json (params : SubmitParams) (sig : Signature) : Json :=
  builtJson (fmtFelt params.senderAddress) params.calldata params.nonce params.resourceBounds
    [sig.r, sig.s] (proofFields params.proofBase64 params.proofFacts)

theorem signAndBuildPayload_eq_ok {params : SubmitParams} {built : Felt × Json} :
    signAndBuildPayload sc params = .ok built ↔
      ∃ sig, sign sc params.privateKey (params.txHash sc) = .ok sig ∧
        built = (params.txHash sc, params.json sig) := by
  have hdef : signAndBuildPayload sc params
      = sign sc params.privateKey (params.txHash sc) >>= fun sig =>
          pure (params.txHash sc, params.json sig) := rfl
  rw [hdef, bind_eq_ok]
  exact exists_congr fun sig => and_congr_right fun _ => pure_eq_ok.trans eq_comm

/-- What `sign_and_build_payload` writes hashes to the hash that it signs. -/
theorem signAndBuildPayload_hash (fh : FeltHex) {params : SubmitParams} {built : Felt × Json}
    (h : signAndBuildPayload sc params = .ok built) :
    decodedHash fh sc params.chainId built.2 = some built.1 ∧
      SignedBy fh sc params.privateKey built.1 built.2 := by
  obtain ⟨sig, hsig, rfl⟩ := signAndBuildPayload_eq_ok.mp h
  refine ⟨?_, sig, hsig, decodeSignature_builtJson⟩
  exact decodedHash_builtJson_proof (fh.fromHex_fmtFelt _)

/-- The core crate builds the same payload. -/
theorem Core.signAndBuildPayload_eq (params : SubmitParams) :
    Core.signAndBuildPayload sc params = Signing.signAndBuildPayload sc params :=
  rfl

theorem feltFromHex_eq_ok {s : String} {f : Felt} :
    feltFromHex fh s = .ok f ↔ fh.fromHex s = .ok f :=
  mapError_eq_ok

theorem buildTransactionFromJson_ok {input : Snip36TransactionInput}
    {out : Snip36TransactionOutput} (h : buildTransactionFromJson fh sc input = .ok out) :
    ∃ senderAddress privateKey calldata nonce sig,
      let bounds := input.resourceBounds.getD .zeroFee
      let txHash := computeInvokeV3TxHash sc.poseidonHashMany
        (builtTx senderAddress calldata (chainIdFelt input.chainId) nonce bounds [])
      fh.fromHex input.senderAddress = .ok senderAddress ∧
        fh.fromHex input.privateKey = .ok privateKey ∧
        sign sc privateKey txHash = .ok sig ∧
        out = ⟨fmtFelt txHash,
          builtJson input.senderAddress calldata nonce bounds [sig.r, sig.s] []⟩ := by
  obtain ⟨senderAddress, hsender, h⟩ := bind_eq_ok.mp h
  obtain ⟨privateKey, hkey, h⟩ := bind_eq_ok.mp h
  obtain ⟨calldata, -, h⟩ := bind_eq_ok.mp h
  obtain ⟨nonce, -, h⟩ := bind_eq_ok.mp h
  obtain ⟨sig, hsig, h⟩ := bind_eq_ok.mp h
  exact ⟨senderAddress, privateKey, calldata, nonce, sig, feltFromHex_eq_ok.mp hsender,
    feltFromHex_eq_ok.mp hkey, mapError_eq_ok.mp hsig, (pure_eq_ok.mp h).symm⟩

theorem buildUnsignedTransactionFromJson_ok {input : Snip36UnsignedTransactionInput}
    {out : Snip36TransactionOutput} (h : buildUnsignedTransactionFromJson fh sc input = .ok out) :
    ∃ senderAddress calldata nonce,
      let bounds := input.resourceBounds.getD .zeroFee
      let txHash := computeInvokeV3TxHash sc.poseidonHashMany
        (builtTx senderAddress calldata (chainIdFelt input.chainId) nonce bounds [])
      fh.fromHex input.senderAddress = .ok senderAddress ∧
        out = ⟨fmtFelt txHash, builtJson input.senderAddress calldata nonce bounds [] []⟩ := by
  obtain ⟨senderAddress, hsender, h⟩ := bind_eq_ok.mp h
  obtain ⟨calldata, -, h⟩ := bind_eq_ok.mp h
  obtain ⟨nonce, -, h⟩ := bind_eq_ok.mp h
  exact ⟨senderAddress, calldata, nonce, feltFromHex_eq_ok.mp hsender, (pure_eq_ok.mp h).symm⟩

/-- The signed payload is that of `signAndBuildPayload`. -/
theorem buildPayloadFromJson_ok {input : Snip36PayloadInput} {out : Snip36PayloadOutput}
    (h : buildPayloadFromJson fh sc input = .ok out) :
    ∃ (params : SubmitParams) (built : Felt × Json),
      fh.fromHex input.privateKey = .ok params.privateKey ∧
        params.chainId = chainIdFelt input.chainId ∧
        signAndBuildPayload sc params = .ok built ∧ out = ⟨fmtFelt built.1, built.2⟩ := by
  obtain ⟨senderAddress, -, h⟩ := bind_eq_ok.mp h
  obtain ⟨privateKey, hkey, h⟩ := bind_eq_ok.mp h
  obtain ⟨calldata, -, h⟩ := bind_eq_ok.mp h
  obtain ⟨proofFacts, -, h⟩ := bind_eq_ok.mp h
  obtain ⟨nonce, -, h⟩ := bind_eq_ok.mp h
  obtain ⟨built, hbuilt, h⟩ := bind_eq_ok.mp h
  exact ⟨_, built, feltFromHex_eq_ok.mp hkey, rfl, mapError_eq_ok.mp hbuilt,
    (pure_eq_ok.mp h).symm⟩

theorem buildUnsignedPayloadFromJson_ok {input : Snip36UnsignedPayloadInput}
    {out : Snip36PayloadOutput} (h : buildUnsignedPayloadFromJson fh sc input = .ok out) :
    ∃ senderAddress calldata proofFacts nonce,
      let bounds := input.resourceBounds.getD .default
      let txHash := computeInvokeV3TxHash sc.poseidonHashMany
        (builtTx senderAddress calldata (chainIdFelt input.chainId) nonce bounds proofFacts)
      out = ⟨fmtFelt txHash, builtJson (fmtFelt senderAddress) calldata nonce bounds []
        (proofFields input.proofBase64 proofFacts)⟩ := by
  obtain ⟨senderAddress, -, h⟩ := bind_eq_ok.mp h
  obtain ⟨calldata, -, h⟩ := bind_eq_ok.mp h
  obtain ⟨proofFacts, -, h⟩ := bind_eq_ok.mp h
  obtain ⟨nonce, -, h⟩ := bind_eq_ok.mp h
  exact ⟨senderAddress, calldata, proofFacts, nonce, (pure_eq_ok.mp h).symm⟩

end Specs

/-! ### Every emitted transaction hashes to the hash returned -/

/-- **Every emitted transaction hashes to the hash that was returned and signed.** -/
theorem builders_hash (fh : FeltHex) (sc : StarknetCrypto) :
    (∀ input out, buildTransactionFromJson fh sc input = .ok out →
      ∃ txHash privateKey, out.txHash = fmtFelt txHash ∧
        decodedHash fh sc (chainIdFelt input.chainId) out.transaction = some txHash ∧
        fh.fromHex input.privateKey = .ok privateKey ∧
        SignedBy fh sc privateKey txHash out.transaction) ∧
    (∀ input out, buildUnsignedTransactionFromJson fh sc input = .ok out →
      ∃ txHash, out.txHash = fmtFelt txHash ∧
        decodedHash fh sc (chainIdFelt input.chainId) out.transaction = some txHash) ∧
    (∀ input out, buildPayloadFromJson fh sc input = .ok out →
      ∃ txHash privateKey, out.txHash = fmtFelt txHash ∧
        decodedHash fh sc (chainIdFelt input.chainId) out.payload = some txHash ∧
        fh.fromHex input.privateKey = .ok privateKey ∧
        SignedBy fh sc privateKey txHash out.payload) ∧
    (∀ input out, buildUnsignedPayloadFromJson fh sc input = .ok out →
      ∃ txHash, out.txHash = fmtFelt txHash ∧
        decodedHash fh sc (chainIdFelt input.chainId) out.payload = some txHash) ∧
    (∀ params txHash payload, signAndBuildPayload sc params = .ok (txHash, payload) →
      decodedHash fh sc params.chainId payload = some txHash ∧
        SignedBy fh sc params.privateKey txHash payload) ∧
    (∀ params txHash payload, Core.signAndBuildPayload sc params = .ok (txHash, payload) →
      decodedHash fh sc params.chainId payload = some txHash ∧
        SignedBy fh sc params.privateKey txHash payload) := by
  refine ⟨?_, ?_, ?_, ?_, ?_, ?_⟩
  · intro input out h
    obtain ⟨_, privateKey, _, _, sig, hsender, hkey, hsig, rfl⟩ := buildTransactionFromJson_ok h
    exact ⟨_, privateKey, rfl, decodedHash_builtJson hsender, hkey, sig, hsig,
      decodeSignature_builtJson⟩
  · intro input out h
    obtain ⟨_, _, _, hsender, rfl⟩ := buildUnsignedTransactionFromJson_ok h
    exact ⟨_, rfl, decodedHash_builtJson hsender⟩
  · intro input out h
    obtain ⟨params, built, hkey, hchain, hbuilt, rfl⟩ := buildPayloadFromJson_ok h
    obtain ⟨hhash, hsigned⟩ := signAndBuildPayload_hash fh hbuilt
    exact ⟨built.1, params.privateKey, rfl, hchain ▸ hhash, hkey, hsigned⟩
  · intro input out h
    obtain ⟨_, _, _, _, rfl⟩ := buildUnsignedPayloadFromJson_ok h
    exact ⟨_, rfl, decodedHash_builtJson_proof (fh.fromHex_fmtFelt _)⟩
  · intro params txHash payload h
    exact signAndBuildPayload_hash fh h
  · intro params txHash payload h
    rw [Core.signAndBuildPayload_eq] at h
    exact signAndBuildPayload_hash fh h

/-- Felts from hexadecimal texts below the prime. -/
def sampleHex : FeltHex where
  fromHex s :=
    match hexNat? s with
    | some n => if h : n < feltPrime then .ok ⟨n, h⟩ else .error "number out of range"
    | none => .error "invalid string"
  fromHex_fmtFelt f := by
    rw [fmtFelt, hexNat?_hexOf]
    exact dif_pos f.isLt

/-- A hash and a signature that are sums and products. -/
def sampleCrypto : StarknetCrypto where
  poseidonHashMany := sampleHash
  rfc6979GenerateK messageHash privateKey := messageHash + privateKey
  sign privateKey messageHash k := .ok (k, privateKey * messageHash + k)

/-- A transaction with a proof, as felts. -/
def sampleParams : SubmitParams where
  senderAddress := 0x123
  privateKey := 1
  calldata := [1, 2]
  proofBase64 := "AA=="
  proofFacts := [5]
  nonce := 7
  chainId := chainIdFelt "SN_SEPOLIA"
  resourceBounds := .default

theorem builders_hash_sample :
    (∃ out, buildTransactionFromJson sampleHex sampleCrypto
        ⟨"0x123", "0x1", ["0x1", "0x2"], "0x7", "SN_SEPOLIA", none⟩ = .ok out ∧
      ∃ txHash, out.txHash = fmtFelt txHash ∧
        decodedHash sampleHex sampleCrypto (chainIdFelt "SN_SEPOLIA") out.transaction
          = some txHash) ∧
    (∃ out, buildUnsignedTransactionFromJson sampleHex sampleCrypto
        ⟨"0x123", ["0x1", "0x2"], "0x7", "SN_SEPOLIA", none⟩ = .ok out ∧
      ∃ txHash, out.txHash = fmtFelt txHash ∧
        decodedHash sampleHex sampleCrypto (chainIdFelt "SN_SEPOLIA") out.transaction
          = some txHash) ∧
    (∃ out, buildPayloadFromJson sampleHex sampleCrypto
        ⟨"0x123", "0x1", ["0x1"], "AA==", ["0x5"], "0x7", "SN_SEPOLIA", none⟩ = .ok out ∧
      ∃ txHash, out.txHash = fmtFelt txHash ∧
        decodedHash sampleHex sampleCrypto (chainIdFelt "SN_SEPOLIA") out.payload
          = some txHash) ∧
    (∃ out, buildUnsignedPayloadFromJson sampleHex sampleCrypto
        ⟨"0x123", ["0x1"], "AA==", ["0x5"], "0x7", "SN_SEPOLIA", none⟩ = .ok out ∧
      ∃ txHash, out.txHash = fmtFelt txHash ∧
        decodedHash sampleHex sampleCrypto (chainIdFelt "SN_SEPOLIA") out.payload
          = some txHash) ∧
    (∃ built, signAndBuildPayload sampleCrypto sampleParams = .ok built ∧
      decodedHash sampleHex sampleCrypto sampleParams.chainId built.2 = some built.1) ∧
    (∃ built, Core.signAndBuildPayload sampleCrypto sampleParams = .ok built ∧
      decodedHash sampleHex sampleCrypto sampleParams.chainId built.2 = some built.1) := by
  obtain ⟨htx, hunsignedTx, hpayload, hunsignedPayload, hparams, hcore⟩ :=
    builders_hash sampleHex sampleCrypto
  refine ⟨?_, ?_, ?_, ?_, ?_, ?_⟩
  · obtain ⟨out, hout⟩ := exists_eq_ok (x := buildTransactionFromJson sampleHex sampleCrypto
        ⟨"0x123", "0x1", ["0x1", "0x2"], "0x7", "SN_SEPOLIA", none⟩) (by decide +kernel)
    obtain ⟨txHash, -, hhash, hdecoded, -⟩ := htx _ _ hout
    exact ⟨out, hout, txHash, hhash, hdecoded⟩
  · obtain ⟨out, hout⟩ := exists_eq_ok (x := buildUnsignedTransactionFromJson sampleHex
        sampleCrypto ⟨"0x123", ["0x1", "0x2"], "0x7", "SN_SEPOLIA", none⟩) (by decide +kernel)
    obtain ⟨txHash, hhash, hdecoded⟩ := hunsignedTx _ _ hout
    exact ⟨out, hout, txHash, hhash, hdecoded⟩
  · obtain ⟨out, hout⟩ := exists_eq_ok (x := buildPayloadFromJson sampleHex sampleCrypto
        ⟨"0x123", "0x1", ["0x1"], "AA==", ["0x5"], "0x7", "SN_SEPOLIA", none⟩) (by decide +kernel)
    obtain ⟨txHash, -, hhash, hdecoded, -⟩ := hpayload _ _ hout
    exact ⟨out, hout, txHash, hhash, hdecoded⟩
  · obtain ⟨out, hout⟩ := exists_eq_ok (x := buildUnsignedPayloadFromJson sampleHex sampleCrypto
        ⟨"0x123", ["0x1"], "AA==", ["0x5"], "0x7", "SN_SEPOLIA", none⟩) (by decide +kernel)
    obtain ⟨txHash, hhash, hdecoded⟩ := hunsignedPayload _ _ hout
    exact ⟨out, hout, txHash, hhash, hdecoded⟩
  · obtain ⟨built, hbuilt⟩ : ∃ built, signAndBuildPayload sampleCrypto sampleParams = .ok built :=
      ⟨_, rfl⟩
    exact ⟨built, hbuilt, (hparams _ _ _ hbuilt).1⟩
  · obtain ⟨built, hbuilt⟩ : ∃ built,
        Core.signAndBuildPayload sampleCrypto sampleParams = .ok built := ⟨_, rfl⟩
    exact ⟨built, hbuilt, (hcore _ _ _ hbuilt).1⟩

end Snip36.Signing
