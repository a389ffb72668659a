import Snip36.Signing.Payload

/-!
# Signing — signed and unsigned builders

The builders of signed transactions and payloads repeat the parsing, the defaults, the hash and
the JSON of the unsigned ones.  Where the private key is a felt and the hash can be signed, a
signed builder and its unsigned twin fail with the same error, or return the same hash and JSON
that differs in the signature alone (`builders_agree`).  The core crate and the pure crate build
the same payload.
-/

namespace Snip36.Signing
open Support

/-- The input without its private key. -/
def Snip36TransactionInput.unsigned (input : Snip36TransactionInput) :
    Snip36UnsignedTransactionInput where
  senderAddress := input.senderAddress
  calldata := input.calldata
  nonce := input.nonce
  chainId := input.chainId
  resourceBounds := input.resourceBounds

/-- The input without its private key. -/
def Snip36PayloadInput.unsigned (input : Snip36PayloadInput) : Snip36UnsignedPayloadInput where
  senderAddress := input.senderAddress
  calldata := input.calldata
  proofBase64 := input.proofBase64
  proofFacts := input.proofFacts
  nonce := input.nonce
  chainId := input.chainId
  resourceBounds := input.resourceBounds

/-- One hash, and JSON that differs in the signature alone. -/
def SameButSignature (signed unsigned : String × Json) : Prop :=
  signed.1 = unsigned.1 ∧
    signed.2.withoutField "signature" = unsigned.2.withoutField "signature"

/-- Built transactions that differ in the signature alone. -/
def SameTransaction (signed unsigned : Snip36TransactionOutput) : Prop :=
  SameButSignature (signed.txHash, signed.transaction) (unsigned.txHash, unsigned.transaction)

/-- Built payloads that differ in the signature alone. -/
def SamePayload (signed unsigned : Snip36PayloadOutput) : Prop :=
  SameButSignature (signed.txHash, signed.payload) (unsigned.txHash, unsigned.payload)

/-- The key signs the hash that has the text `txHash`. -/
def Signs (sc : StarknetCrypto) (privateKey : Felt) (txHash : String) : Prop :=
  ∀ hash, fmtFelt hash = txHash → ∃ sig, sign sc privateKey hash = .ok sig

/-- JSON with any two signatures is the same without them. -/
theorem withoutField_builtJson {sender : String} {calldata : List Felt} {nonce : Felt}
    {bounds : ResourceBounds} (signature signature' : List Felt) (extra : List (String × Json)) :
    (builtJson sender calldata nonce bounds signature extra).withoutField "signature"
      = (builtJson sender calldata nonce bounds signature' extra).withoutField "signature" := by
  simp [builtJson, Json.withoutField]

section Builders

variable {fh : FeltHex} {sc : StarknetCrypto} {privateKey : Felt}

theorem buildTransaction_agree {input : Snip36TransactionInput}
    (hkey : feltFromHex fh input.privateKey = .ok privateKey)
    (hsigns : ∀ out, buildUnsignedTransactionFromJson fh sc input.unsigned = .ok out →
      Signs sc privateKey out.txHash) :
    Agree SameTransaction (buildTransactionFromJson fh sc input)
      (buildUnsignedTransactionFromJson fh sc input.unsigned) := by
  refine Agree.bind fun senderAddress hsender => Agree.bind_left hkey ?_
  refine Agree.bind fun calldata hcalldata => Agree.bind fun nonce hnonce => ?_
  -- all fields parse, so the unsigned twin returns: the hash it returns is the one to sign
  have hunsigned : buildUnsignedTransactionFromJson fh sc input.unsigned = .ok _ :=
    bind_eq_ok.mpr ⟨senderAddress, hsender, bind_eq_ok.mpr ⟨calldata, hcalldata,
      bind_eq_ok.mpr ⟨nonce, hnonce, rfl⟩⟩⟩
  obtain ⟨sig, hsig⟩ := hsigns _ hunsigned _ rfl
  refine Agree.bind_left (mapError_eq_ok.mpr hsig) (.ok ⟨rfl, ?_⟩)
  exact withoutField_builtJson [sig.r, sig.s] [] []

theorem buildPayload_agree {input : Snip36PayloadInput}
    (hkey : feltFromHex fh input.privateKey = .ok privateKey)
    (hsigns : ∀ out, buildUnsignedPayloadFromJson fh sc input.unsigned = .ok out →
      Signs sc privateKey out.txHash) :
    Agree SamePayload (buildPayloadFromJson fh sc input)
      (buildUnsignedPayloadFromJson fh sc input.unsigned) := by
  refine Agree.bind fun senderAddress hsender => Agree.bind_left hkey ?_
  refine Agree.bind fun calldata hcalldata => Agree.bind fun proofFacts hproofFacts => ?_
  refine Agree.bind fun nonce hnonce => ?_
  have hunsigned : buildUnsignedPayloadFromJson fh sc input.unsigned = .ok _ :=
    bind_eq_ok.mpr ⟨senderAddress, hsender, bind_eq_ok.mpr ⟨calldata, hcalldata,
      bind_eq_ok.mpr ⟨proofFacts, hproofFacts, bind_eq_ok.mpr ⟨nonce, hnonce, rfl⟩⟩⟩⟩
  obtain ⟨sig, hsig⟩ := hsigns _ hunsigned _ rfl
  refine Agree.bind_left
    (mapError_eq_ok.mpr (signAndBuildPayload_eq_ok.mpr ⟨sig, hsig, rfl⟩)) (.ok ⟨rfl, ?_⟩)
  exact withoutField_builtJson [sig.r, sig.s] [] (proofFields input.proofBase64 proofFacts)

end Builders

/-- **Signed and unsigned builders agree**, and so do the two crates. -/
theorem builders_agree (fh : FeltHex) (sc : StarknetCrypto) :
    (∀ (input : Snip36PayloadInput) privateKey,
      feltFromHex fh input.privateKey = .ok privateKey →
      (∀ out, buildUnsignedPayloadFromJson fh sc input.unsigned = .ok out →
        Signs sc privateKey out.txHash) →
      Agree SamePayload (buildPayloadFromJson fh sc input)
        (buildUnsignedPayloadFromJson fh sc input.unsigned)) ∧
    (∀ (input : Snip36TransactionInput) privateKey,
      feltFromHex fh input.privateKey = .ok privateKey →
      (∀ out, buildUnsignedTransactionFromJson fh sc input.unsigned = .ok out →
        Signs sc privateKey out.txHash) →
      Agree SameTransaction (buildTransactionFromJson fh sc input)
        (buildUnsignedTransactionFromJson fh sc input.unsigned)) ∧
    ∀ params, Core.signAndBuildPayload sc params = signAndBuildPayload sc params :=
  ⟨fun _ _ hkey hsigns => buildPayload_agree hkey hsigns,
    fun _ _ hkey hsigns => buildTransaction_agree hkey hsigns, Core.signAndBuildPayload_eq⟩

theorem builders_agree_sample :
    Agree SamePayload
        (buildPayloadFromJson sampleHex sampleCrypto
          ⟨"0x123", "0x1", ["0x1"], "AA==", ["0x5"], "0x7", "SN_SEPOLIA", none⟩)
        (buildUnsignedPayloadFromJson sampleHex sampleCrypto
          ⟨"0x123", ["0x1"], "AA==", ["0x5"], "0x7", "SN_SEPOLIA", none⟩) ∧
      Agree SameTransaction
        (buildTransactionFromJson sampleHex sampleCrypto
          ⟨"0x123", "0x1", ["0x1", "x"], "0x7", "SN_SEPOLIA", none⟩)
        (buildUnsignedTransactionFromJson sampleHex sampleCrypto
          ⟨"0x123", ["0x1", "x"], "0x7", "SN_SEPOLIA", none⟩) := by
  obtain ⟨hpayload, htransaction, -⟩ := builders_agree sampleHex sampleCrypto
  have hkey : feltFromHex sampleHex "0x1" = .ok 1 :=
    feltFromHex_eq_ok.mpr (sampleHex.fromHex_fmtFelt 1)
  exact ⟨hpayload ⟨"0x123", "0x1", ["0x1"], "AA==", ["0x5"], "0x7", "SN_SEPOLIA", none⟩ 1 hkey
      fun _ _ _ _ => ⟨_, rfl⟩,
    htransaction ⟨"0x123", "0x1", ["0x1", "x"], "0x7", "SN_SEPOLIA", none⟩ 1 hkey
      fun _ _ _ _ => ⟨_, rfl⟩⟩

end Snip36.Signing
