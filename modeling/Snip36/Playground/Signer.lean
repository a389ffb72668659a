import Snip36.Npm.ChainId
import Snip36.Playground.Handlers

/-!
# The playground — what the frontend signs

The frontend computes the hash of an increment (`computeInvokeV3TxHash`) and signs it; the server
builds the transaction (`invoke_increment`) and sends it with that signature.  Each has its own
resource bounds.

`signedTx_increment`: both build the same transaction, but for the bounds.
`not_signsSubmitted`: so the hash that is signed is never that of the transaction which is
submitted.
-/

namespace Snip36.Playground
open Support Signing Streams

/-! ### The signer -/

namespace Frontend

/-- `RESOURCE_BOUNDS`. -/
def resourceBounds : ResourceBounds where
  l1Gas := ⟨0x0, 0xe8d4a51000⟩
  l2Gas := ⟨0x2000000, 0x2cb417800⟩
  l1DataGas := ⟨0x1b0, 0x5dc⟩

/-- `SN_SEPOLIA_CHAIN_ID`; none when the encoder throws. -/
def snSepoliaChainId : Option String := Npm.encodeShortString "SN_SEPOLIA"

/-- `InvokeV3TxHashParams`. -/
structure InvokeV3TxHashParams where
  senderAddress : String
  calldata : List String
  nonce : ℕ

section Hashing

variable (toBigInt : String → Option Felt) (poseidonHashMany : List Felt → Felt)

/-- The transaction that `calculateInvokeTransactionHash` is given, with the texts in it read by
`toBigInt`. -/
def signedTx (params : InvokeV3TxHashParams) : Option InvokeV3 := do
  let senderAddress ← toBigInt params.senderAddress
  let calldata ← params.calldata.mapM toBigInt
  let chainId ← snSepoliaChainId.bind toBigInt
  let nonce ← toBigInt (hexOf params.nonce)
  pure (builtTx senderAddress calldata chainId nonce resourceBounds [])

/-- `computeInvokeV3TxHash`; none when a text cannot be read. -/
def computeInvokeV3TxHash (params : InvokeV3TxHashParams) : Option String :=
  (signedTx toBigInt params).map fun tx =>
    fmtFelt (Signing.computeInvokeV3TxHash poseidonHashMany tx)

end Hashing

end Frontend

/-! ### What is signed and what is submitted -/

section Submitting

variable (fh : FeltHex) (sc : StarknetCrypto) (toBigInt : String → Option Felt)

/-- What the signer is given for an increment by an account. -/
def signerParams (accountAddress : String) (calldata : List String) (req : InvokeRequest) :
    Frontend.InvokeV3TxHashParams where
  senderAddress := accountAddress
  calldata := calldata
  nonce := req.nonce.toNat

/-- The texts of the calldata of an increment. -/
def incrementCalldata (contractAddress : String) (req : InvokeRequest) : List String :=
  ["0x1", contractAddress, incrementSelector, "0x1", hexOf req.amount.toNat]

/-- The hash that is signed is the hash, on a chain, of the transaction that is submitted. -/
def SignsSubmitted (chainId : Felt) (session : Session) (calldata : List String)
    (req : InvokeRequest) : Prop :=
  ∃ contractAddress accountAddress txHash,
    invokeIncrement session = .ok (contractAddress, accountAddress) ∧
    Frontend.computeInvokeV3TxHash toBigInt sc.poseidonHashMany
      (signerParams accountAddress calldata req) = some (fmtFelt txHash) ∧
    decodedHash fh sc chainId (invokeTx contractAddress accountAddress req) = some txHash

end Submitting

variable {fh : FeltHex} {sc : StarknetCrypto} {toBigInt : String → Option Felt}

/-- The transaction that is signed has the bounds of the frontend. -/
theorem resourceBounds_of_signedTx {params : Frontend.InvokeV3TxHashParams} {tx : InvokeV3}
    (h : Frontend.signedTx toBigInt params = some tx) :
    tx.resourceBounds = Frontend.resourceBounds := by
  simp only [Frontend.signedTx, Option.bind_eq_bind, Option.bind_eq_some_iff] at h
  obtain ⟨_, -, _, -, _, -, _, -, htx⟩ := h
  obtain rfl := Option.some.inj htx
  rfl

theorem mapM_congr {f g : String → Option Felt} {ss : List String} (h : ∀ s ∈ ss, f s = g s) :
    ss.mapM f = ss.mapM g := by
  induction ss with
  | nil => rfl
  | cons s ss ih =>
      rw [List.mapM_cons, List.mapM_cons, h s (by simp), ih fun s' hs' => h s' (by simp [hs'])]

theorem feltValues_strings_eq (ss : List String) :
    feltValues fh (strings ss) = ss.mapM fun s => (fh.fromHex s).toOption := by
  rw [strings, feltValues, List.mapM_map]
  rfl

/-- **How a node reads what is submitted**: the felts of the texts, with the bounds of the
server. -/
theorem decodeInvokeV3_invokeTx (chainId : Felt) (contractAddress accountAddress : String)
    (req : InvokeRequest) :
    decodeInvokeV3 fh chainId (invokeTx contractAddress accountAddress req) = (do
      let senderAddress ← (fh.fromHex accountAddress).toOption
      let calldata ← (incrementCalldata contractAddress req).mapM fun s => (fh.fromHex s).toOption
      let nonce ← (fh.fromHex (hexOf req.nonce.toNat)).toOption
      pure (builtTx senderAddress calldata chainId nonce .playground [])) := by
  simp only [decodeInvokeV3, invokeTx, Json.field_cons, Json.field_nil, String.reduceEq, if_false,
    if_true, Option.bind_some, Json.text, feltValue_three, feltValue_zero, feltValues_nil,
    feltValues_strings_eq, decodeBounds_toRpcJson, daModeValue, decodeProofFacts, guard,
    Option.bind_eq_bind, Option.pure_def]
  rfl

/-- The transaction that is submitted has the bounds of the server. -/
theorem resourceBounds_of_invokeTx {chainId : Felt} {contractAddress accountAddress : String}
    {req : InvokeRequest} {tx : InvokeV3}
    (h : decodeInvokeV3 fh chainId (invokeTx contractAddress accountAddress req) = some tx) :
    tx.resourceBounds = .playground := by
  simp only [decodeInvokeV3_invokeTx, Option.bind_eq_bind, Option.bind_eq_some_iff] at h
  obtain ⟨_, -, _, -, _, -, htx⟩ := h
  obtain rfl := Option.some.inj htx
  rfl

/-- **The signer builds what is submitted, but for the bounds**, when it reads the texts as the node
does and the chain is the one it has in mind. -/
theorem signedTx_increment {chainId : Felt} {contractAddress accountAddress : String}
    {req : InvokeRequest} (hchain : Frontend.snSepoliaChainId.bind toBigInt = some chainId)
    (hread : ∀ s ∈ accountAddress :: hexOf req.nonce.toNat ::
      incrementCalldata contractAddress req, toBigInt s = (fh.fromHex s).toOption) :
    Frontend.signedTx toBigInt
        (signerParams accountAddress (incrementCalldata contractAddress req) req)
      = (decodeInvokeV3 fh chainId (invokeTx contractAddress accountAddress req)).map
          fun tx => { tx with resourceBounds := Frontend.resourceBounds } := by
  have hsender := hread accountAddress (by simp)
  have hnonce := hread (hexOf req.nonce.toNat) (by simp)
  have hcalldata : (incrementCalldata contractAddress req).mapM toBigInt
      = (incrementCalldata contractAddress req).mapM fun s => (fh.fromHex s).toOption :=
    mapM_congr fun s hs => hread s (by simp [hs])
  rw [decodeInvokeV3_invokeTx, Frontend.signedTx, signerParams, hsender, hnonce, hcalldata, hchain]
  cases (fh.fromHex accountAddress).toOption with
  | none => rfl
  | some sender =>
      cases (incrementCalldata contractAddress req).mapM fun s => (fh.fromHex s).toOption with
      | none => rfl
      | some calldata => cases (fh.fromHex (hexOf req.nonce.toNat)).toOption <;> rfl

/-- **The hash that is signed is not that of the transaction which is submitted**, for any session,
amount and nonce, when Poseidon does not collide on the two. -/
theorem not_signsSubmitted {chainId : Felt} {session : Session} {calldata : List String}
    {req : InvokeRequest}
    (hno : ∀ contractAddress accountAddress tx tx',
      invokeIncrement session = .ok (contractAddress, accountAddress) →
      Frontend.signedTx toBigInt (signerParams accountAddress calldata req) = some tx →
      decodeInvokeV3 fh chainId (invokeTx contractAddress accountAddress req) = some tx' →
      NoCollision sc.poseidonHashMany tx tx') :
    ¬ SignsSubmitted fh sc toBigInt chainId session calldata req := by
  rintro ⟨contract, account, txHash, hsession, hsigned, hsubmitted⟩
  obtain ⟨tx, htx, hhash⟩ := Option.map_eq_some_iff.mp hsigned
  obtain ⟨tx', htx', hhash'⟩ := Option.map_eq_some_iff.mp hsubmitted
  have heq := fmtFelt_injective hhash
  rw [← hhash'] at heq
  obtain rfl := computeInvokeV3TxHash_inj (hno _ _ _ _ hsession htx htx') heq
  have hbounds : Frontend.resourceBounds = ResourceBounds.playground :=
    (resourceBounds_of_signedTx htx).symm.trans (resourceBounds_of_invokeTx htx')
  exact absurd hbounds (by decide)

/-- A session with an account and a contract. -/
def sampleSession : Session := { accountAddress := some "0x123", contractAddress := some "0x5" }

/-- An increment by one. -/
def sampleIncrement : InvokeRequest where
  sessionId := "session"
  amount := 1
  signatureR := "0x8"
  signatureS := "0x9"
  nonce := 7

/-- The texts of the sample increment, and of the chain. -/
def sampleBigInt (s : String) : Option Felt := (sampleHex.fromHex s).toOption

/-- The transaction of the sample increment, with bounds. -/
def sampleIncrementTx (resourceBounds : ResourceBounds) : InvokeV3 :=
  builtTx 0x123 [1, 5, 0x7a44dde9fea32737a5cf3f9683b3235138654aa2d189f6fe44af37a61dc60d, 1, 1]
    0x534e5f5345504f4c4941 7 resourceBounds []

theorem signedTx_sample :
    Frontend.signedTx sampleBigInt
        (signerParams "0x123" (incrementCalldata "0x5" sampleIncrement) sampleIncrement)
      = some (sampleIncrementTx Frontend.resourceBounds) := by
  decide +kernel

theorem decodeInvokeV3_sample :
    decodeInvokeV3 sampleHex 0x534e5f5345504f4c4941 (invokeTx "0x5" "0x123" sampleIncrement)
      = some (sampleIncrementTx .playground) := by
  rw [decodeInvokeV3_invokeTx]
  decide +kernel

theorem noCollision_sample : NoCollision sampleCrypto.poseidonHashMany
    (sampleIncrementTx Frontend.resourceBounds) (sampleIncrementTx .playground) := by
  have hlists : ∀ l ∈ hashedLists sampleHash (sampleIncrementTx Frontend.resourceBounds)
        ++ hashedLists sampleHash (sampleIncrementTx .playground),
      ∀ l' ∈ hashedLists sampleHash (sampleIncrementTx Frontend.resourceBounds)
        ++ hashedLists sampleHash (sampleIncrementTx .playground),
      sampleHash l = sampleHash l' → l = l' := by decide +kernel
  exact fun l hl l' hl' h => hlists l (List.mem_append.mpr hl) l' (List.mem_append.mpr hl') h

theorem not_signsSubmitted_sample :
    ¬ SignsSubmitted sampleHex sampleCrypto sampleBigInt 0x534e5f5345504f4c4941 sampleSession
      (incrementCalldata "0x5" sampleIncrement) sampleIncrement := by
  refine not_signsSubmitted ?_
  intro contract account tx tx' hsession htx htx'
  obtain ⟨rfl, rfl⟩ := Prod.mk.inj (Except.ok.inj hsession)
  obtain rfl := Option.some.inj (signedTx_sample.symm.trans htx)
  obtain rfl := Option.some.inj (decodeInvokeV3_sample.symm.trans htx')
  exact noCollision_sample

/-- The two hashes of the sample increment. -/
theorem hashes_differ :
    ∃ signed submitted,
      invokeIncrement sampleSession = .ok ("0x5", "0x123") ∧
      Frontend.computeInvokeV3TxHash sampleBigInt sampleCrypto.poseidonHashMany
        (signerParams "0x123" (incrementCalldata "0x5" sampleIncrement) sampleIncrement)
          = some (fmtFelt signed) ∧
      decodedHash sampleHex sampleCrypto 0x534e5f5345504f4c4941
        (invokeTx "0x5" "0x123" sampleIncrement) = some submitted ∧
      signed ≠ submitted := by
  refine ⟨Signing.computeInvokeV3TxHash sampleHash (sampleIncrementTx Frontend.resourceBounds),
    Signing.computeInvokeV3TxHash sampleHash (sampleIncrementTx .playground), rfl, ?_, ?_, ?_⟩
  · rw [Frontend.computeInvokeV3TxHash, signedTx_sample]
    rfl
  · rw [decodedHash, decodeInvokeV3_sample]
    rfl
  · decide +kernel

end Snip36.Playground
