import Snip36.Signing.Packing
import Snip36.Streams.Outcomes

/-!
# Streams — chain ids

The server encodes its chain id in a buffer of 32 bytes, after a check of the length
(`Config.chainIdFelt`).  The builders of the browser take the bytes of any text modulo the prime
(`Signing.chainIdFelt`), and have no check.

`encodersAgree_iff`: the two agree, reject what is too long and tell two chain ids apart exactly
when neither chain id is longer than 31 bytes.
-/

namespace Snip36.Streams
open Support Signing

/-! ### The encoders -/

/-- The felt that a server hashes for a chain id. -/
def serverChainIdFelt (config : Config) (chainId : String) : Except String Felt :=
  { config with chainId }.chainIdFelt

/-- The inputs of the builders of the browser. -/
inductive BuilderInput where
  | transaction (input : Snip36TransactionInput)
  | unsignedTransaction (input : Snip36UnsignedTransactionInput)
  | payload (input : Snip36PayloadInput)
  | unsignedPayload (input : Snip36UnsignedPayloadInput)

namespace BuilderInput

/-- The chain id of an input. -/
def chainId : BuilderInput → String
  | .transaction input => input.chainId
  | .unsignedTransaction input => input.chainId
  | .payload input => input.chainId
  | .unsignedPayload input => input.chainId

variable (fh : FeltHex) (sc : StarknetCrypto)

/-- The hash that the builder of an input returns. -/
def txHash : BuilderInput → Except String String
  | .transaction input => (buildTransactionFromJson fh sc input).map (·.txHash)
  | .unsignedTransaction input => (buildUnsignedTransactionFromJson fh sc input).map (·.txHash)
  | .payload input => (buildPayloadFromJson fh sc input).map (·.txHash)
  | .unsignedPayload input => (buildUnsignedPayloadFromJson fh sc input).map (·.txHash)

end BuilderInput

section Encoders

variable (fh : FeltHex) (sc : StarknetCrypto) (config : Config)

/-- Some builder of the browser accepts a chain id. -/
def BrowserAccepts (chainId : String) : Prop :=
  ∃ input : BuilderInput, input.chainId = chainId ∧ ∃ txHash, input.txHash fh sc = .ok txHash

/-- The server accepts a chain id. -/
def ServerAccepts (chainId : String) : Prop := ∃ f, serverChainIdFelt config chainId = .ok f

/-- The encoders agree on two chain ids, reject those of them that are too long, and tell them
apart. -/
structure EncodersAgree (s s' : String) : Prop where
  agree : ∀ t, t = s ∨ t = s' → ∀ f, serverChainIdFelt config t = .ok f → chainIdFelt t = f
  rejected : ∀ t, t = s ∨ t = s' → 31 < (utf8Bytes t).length →
    ¬ ServerAccepts config t ∧ ¬ BrowserAccepts fh sc t
  injective : (utf8Bytes s).head? ≠ some 0 → (utf8Bytes s').head? ≠ some 0 →
    ServerAccepts config s ∨ BrowserAccepts fh sc s →
    ServerAccepts config s' ∨ BrowserAccepts fh sc s' →
    chainIdFelt s = chainIdFelt s' → s = s'

end Encoders

variable {fh : FeltHex} {sc : StarknetCrypto} {config : Config}

/-! ### What is accepted -/

/-- **Padding changes nothing**: a chain id that the server accepts has the felt of the browser. -/
theorem serverChainIdFelt_eq_ok {s : String} {f : Felt} :
    serverChainIdFelt config s = .ok f ↔ (utf8Bytes s).length ≤ 31 ∧ chainIdFelt s = f := by
  simp only [serverChainIdFelt, Config.chainIdFelt]
  by_cases hlong : 31 < (utf8Bytes s).length
  · rw [if_pos hlong]
    exact iff_of_false (by simp) fun h => absurd h.1 (by omega)
  · rw [if_neg hlong, Felt.fromBytesBe, foldl_replicate_zero, Except.ok.injEq]
    exact (and_iff_right (by omega)).symm

/-- The builders of the browser accept every chain id. -/
theorem browserAccepts (fh : FeltHex) (sc : StarknetCrypto) (s : String) :
    BrowserAccepts fh sc s := by
  have hzero : feltFromHex fh (fmtFelt 0) = .ok 0 := feltFromHex_eq_ok.mpr (fh.fromHex_fmtFelt 0)
  refine ⟨.unsignedTransaction ⟨fmtFelt 0, [], fmtFelt 0, s, none⟩, rfl, ?_⟩
  rw [BuilderInput.txHash, buildUnsignedTransactionFromJson, hzero]
  exact ⟨_, rfl⟩

/-- The number of a short chain id does not wrap. -/
theorem val_chainIdFelt {s : String} (h : (utf8Bytes s).length ≤ 31) :
    (chainIdFelt s).val = beNat (utf8Bytes s) := by
  have hlt : beNat (utf8Bytes s) < feltPrime :=
    calc beNat (utf8Bytes s) < 256 ^ (utf8Bytes s).length := beNat_lt _
      _ ≤ 256 ^ 31 := Nat.pow_le_pow_right (by norm_num) h
      _ < feltPrime := by norm_num [feltPrime]
  exact Felt.val_ofNat hlt

/-- Short chain ids that do not start with a zero are told apart. -/
theorem chainIdFelt_inj {s s' : String} (h : (utf8Bytes s).length ≤ 31)
    (h' : (utf8Bytes s').length ≤ 31) (hnul : (utf8Bytes s).head? ≠ some 0)
    (hnul' : (utf8Bytes s').head? ≠ some 0) (heq : chainIdFelt s = chainIdFelt s') : s = s' := by
  have hval := congrArg Fin.val heq
  rw [val_chainIdFelt h, val_chainIdFelt h'] at hval
  exact utf8Bytes_injective (beNat_inj hnul hnul' hval)

/-! ### When the encoders agree -/

/-- **The encoders agree exactly on chain ids of at most 31 bytes.** -/
theorem encodersAgree_iff (fh : FeltHex) (sc : StarknetCrypto) (config : Config) (s s' : String) :
    EncodersAgree fh sc config s s' ↔
      (utf8Bytes s).length ≤ 31 ∧ (utf8Bytes s').length ≤ 31 := by
  constructor
  · intro h
    have hshort : ∀ t, t = s ∨ t = s' → (utf8Bytes t).length ≤ 31 := by
      intro t ht
      by_contra hlong
      exact (h.rejected t ht (by omega)).2 (browserAccepts fh sc t)
    exact ⟨hshort s (.inl rfl), hshort s' (.inr rfl)⟩
  · rintro ⟨hs, hs'⟩
    refine ⟨fun t _ f hf => (serverChainIdFelt_eq_ok.mp hf).2, ?_, ?_⟩
    · rintro t (rfl | rfl) hlong
      · omega
      · omega
    · exact fun hnul hnul' _ _ heq => chainIdFelt_inj hs hs' hnul hnul' heq

/-- A chain id of 32 bytes whose number is that of `A` and the prime. -/
def wrappingChainId : String :=
  String.ofList ((8 :: List.replicate 6 0 ++ 17 :: List.replicate 23 0 ++ [66]).map Char.ofNat)

/-- The server rejects the long chain id, and the builders of the browser take it for `A`. -/
theorem not_encodersAgree_wrapping :
    (∀ fh sc config, ¬ EncodersAgree fh sc config wrappingChainId "A") ∧
      (∀ config, ∃ e, serverChainIdFelt config wrappingChainId = .error e) ∧
      (utf8Bytes wrappingChainId).head? ≠ some 0 ∧
      chainIdFelt wrappingChainId = chainIdFelt "A" ∧ wrappingChainId ≠ "A" := by
  have hlen : (utf8Bytes wrappingChainId).length = 32 := by decide +kernel
  refine ⟨fun fh sc config h => ?_, fun config => ⟨_, if_pos (by rw [hlen]; norm_num)⟩,
    by decide +kernel, by decide +kernel, by decide +kernel⟩
  exact h.rejected _ (.inl rfl) (by omega) |>.2 (browserAccepts fh sc _)

end Snip36.Streams
