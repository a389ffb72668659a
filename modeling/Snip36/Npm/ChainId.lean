import Snip36.Npm.Decoding

/-!
# The npm package — chain ids

`get_snip36_proof` turns the name of a chain into hexadecimal text (`toChainIdFelt`) before it
builds a transaction; the builder reads the bytes of any text as a big-endian number.  A name of at
most 14 bytes is turned into a longer text, whose number is another one.

`sameChain_iff`: the text of a name gives the hash of the name exactly when the name starts with
`0X`, and is passed on as it is, or its text happens to have the number of the name modulo the
prime, which takes 15 bytes at least.
-/

namespace Snip36.Npm
open Support Signing

/-! ### The encoder -/

/-- `s.startsWith(pat)`. -/
def startsWith (s pat : String) : Bool := pat.toList.isPrefixOf s.toList

/-- `shortString.encodeShortString`: the big-endian number of at most 31 ASCII characters. -/
def encodeShortString (s : String) : Option String :=
  if (s.toList.all fun c => c.toNat < 128) ∧ s.length ≤ 31 then some (hexOf (beNat (utf8Bytes s)))
  else none

/-- `toChainIdFelt`; none when the encoder throws. -/
def toChainIdFelt (chainId : String) : Option String :=
  if startsWith chainId "0x" || startsWith chainId "0X" then some chainId
  else ((encodeShortString chainId).bind hexNat?).map hexOf

/-- A name of a chain: 1 to 31 ASCII characters that do not start with `0x`. -/
structure IsName (s : String) : Prop where
  ascii : ∀ c ∈ s.toList, c.toNat < 128
  pos : 1 ≤ s.length
  le : s.length ≤ 31
  no0x : startsWith s "0x" = false

/-! ### The builder -/

section Building

variable (fh : FeltHex) (sc : StarknetCrypto)

/-- `build_snip36_unsigned_transaction`. -/
def buildSnip36UnsignedTransaction (v : JsValue) : Except String Snip36TransactionOutput := do
  let input ← okOr v.unsignedTransactionInput "invalid unsigned transaction input"
  (buildUnsignedTransactionFromJson fh sc input).mapError fun e =>
    "unsigned transaction build failed: " ++ e

/-- `build_snip36_transaction`. -/
def buildSnip36Transaction (v : JsValue) : Except String Snip36TransactionOutput := do
  let input ← okOr v.transactionInput "invalid transaction input"
  (buildTransactionFromJson fh sc input).mapError fun e => "transaction build failed: " ++ e

/-- The `tx_hash` that `buildUnsignedTransactionForProving` returns, for a chain id. -/
def txHashFor (input : Ts.Snip36UnsignedTransactionBuildInput) (fetched chainId : String) :
    Except String String :=
  (buildSnip36UnsignedTransaction fh sc ({ input with chainId }.passed fetched)).map (·.txHash)

/-- What the builder reads, but the chain id. -/
structure Parsed where
  senderAddress : Felt
  calldata : List Felt
  nonce : Felt
  resourceBounds : ResourceBounds

/-- The transaction of what was read, on a chain. -/
def Parsed.tx (parsed : Parsed) (chainId : Felt) : InvokeV3 :=
  builtTx parsed.senderAddress parsed.calldata chainId parsed.nonce parsed.resourceBounds []

/-- The fields of an input are read. -/
def parse (input : Ts.Snip36UnsignedTransactionBuildInput) (fetched : String) :
    Except String Parsed := do
  let r ← okOr (input.passed fetched).unsignedTransactionInput "invalid unsigned transaction input"
  let fields : Except String Parsed := do
    let senderAddress ← feltFromHex fh r.senderAddress
    let calldata ← r.calldata.mapM (feltFromHex fh)
    let nonce ← feltFromHex fh r.nonce
    pure ⟨senderAddress, calldata, nonce, r.resourceBounds.getD .zeroFee⟩
  fields.mapError fun e => "unsigned transaction build failed: " ++ e

/-- The hash of an input on a chain. -/
def hashOn (input : Ts.Snip36UnsignedTransactionBuildInput) (fetched : String) (chainId : Felt) :
    Except String String :=
  (parse fh input fetched).map fun parsed =>
    fmtFelt (computeInvokeV3TxHash sc.poseidonHashMany (parsed.tx chainId))

/-- The name of a chain and its text both give the hash on the chain with the short string of the
name. -/
def SameChain (input : Ts.Snip36UnsignedTransactionBuildInput) (fetched s : String) : Prop :=
  ∃ text, toChainIdFelt s = some text ∧
    txHashFor fh sc input fetched text
      = hashOn fh sc input fetched (.ofNat (beNat (utf8Bytes s))) ∧
    txHashFor fh sc input fetched s = hashOn fh sc input fetched (.ofNat (beNat (utf8Bytes s)))

end Building

variable {fh : FeltHex} {sc : StarknetCrypto}

/-- The chain id is read last, and only as a felt. -/
theorem txHashFor_eq (input : Ts.Snip36UnsignedTransactionBuildInput) (fetched chainId : String) :
    txHashFor fh sc input fetched chainId
      = hashOn fh sc input fetched (Signing.chainIdFelt chainId) := by
  rw [txHashFor, hashOn, parse, buildSnip36UnsignedTransaction,
    Ts.Snip36UnsignedTransactionBuildInput.unsignedTransactionInput_passed,
    Ts.Snip36UnsignedTransactionBuildInput.unsignedTransactionInput_passed]
  have hbounds : ({ input with chainId }.passed fetched).optional JsValue.resourceBounds
      "resource_bounds" = (input.passed fetched).optional JsValue.resourceBounds
      "resource_bounds" := rfl
  rw [hbounds]
  cases (input.passed fetched).optional JsValue.resourceBounds "resource_bounds" with
  | none => rfl
  | some bounds =>
      simp only [Option.map_some, okOr, buildUnsignedTransactionFromJson]
      cases hsender : feltFromHex fh input.senderAddress with
      | error e => simp [hsender, bind, Except.bind, Except.mapError, Except.map]
      | ok sender =>
          cases hcalldata : input.calldata.mapM (feltFromHex fh) with
          | error e => simp [hsender, hcalldata, bind, Except.bind, Except.mapError, Except.map]
          | ok calldata =>
              cases hnonce : feltFromHex fh (Ts.nonceOr input.nonce fetched) with
              | error e =>
                  simp [hsender, hcalldata, hnonce, bind, Except.bind, Except.mapError, Except.map]
              | ok nonce =>
                  simp [hsender, hcalldata, hnonce, bind, Except.bind, Except.mapError, Except.map,
                    pure, Except.pure, Parsed.tx, builtTx]

/-! ### The numbers of texts -/

/-- The digits of a hexadecimal text are ASCII. -/
theorem lt_of_mem_toDigits (n : ℕ) : ∀ c ∈ Nat.toDigits 16 n, c.toNat < 128 :=
  forall_mem_toDigits (by decide) n

/-- The bytes of a hexadecimal text. -/
theorem utf8Bytes_hexOf (n : ℕ) :
    utf8Bytes (hexOf n) = 0x30 :: 0x78 :: (Nat.toDigits 16 n).flatMap String.utf8EncodeChar := by
  rw [utf8Bytes, hexOf, String.toList_ofList, List.flatMap_cons, List.flatMap_cons]
  rfl

theorem length_digitBytes (n : ℕ) :
    ((Nat.toDigits 16 n).flatMap String.utf8EncodeChar).length = (Nat.toDigits 16 n).length := by
  have h := length_utf8Bytes (s := String.ofList (Nat.toDigits 16 n))
    (by simpa using lt_of_mem_toDigits n)
  simpa [utf8Bytes] using h

/-- **The number of a text is above the number that it is the text of.** -/
theorem lt_beNat_hexOf (n : ℕ) : n < beNat (utf8Bytes (hexOf n)) := by
  have hpos : 0 < (Nat.toDigits 16 n).length := Nat.length_toDigits_pos
  have hn : n < 16 ^ (Nat.toDigits 16 n).length :=
    (Nat.length_toDigits_le_iff (by norm_num) hpos).mp le_rfl
  have hbig : 16 ^ (Nat.toDigits 16 n).length ≤ 256 ^ ((Nat.toDigits 16 n).length + 1) :=
    (Nat.pow_le_pow_left (by norm_num) _).trans (Nat.pow_le_pow_right (by norm_num) (by omega))
  rw [utf8Bytes_hexOf, beNat_cons, List.length_cons, length_digitBytes]
  have hbyte : (0x30 : UInt8).toNat = 48 := rfl
  rw [hbyte]
  omega

/-- The number of the text of a short name does not wrap. -/
theorem beNat_hexOf_lt {n : ℕ} (h : n < 256 ^ 14) : beNat (utf8Bytes (hexOf n)) < feltPrime := by
  have hlen : (Nat.toDigits 16 n).length ≤ 28 := by
    refine (Nat.length_toDigits_le_iff (by norm_num) (by norm_num)).mpr (h.trans_eq ?_)
    norm_num
  have hbytes : (utf8Bytes (hexOf n)).length ≤ 30 := by
    rw [utf8Bytes_hexOf, List.length_cons, List.length_cons, length_digitBytes]
    omega
  calc beNat (utf8Bytes (hexOf n)) < 256 ^ (utf8Bytes (hexOf n)).length := beNat_lt _
    _ ≤ 256 ^ 30 := Nat.pow_le_pow_right (by norm_num) hbytes
    _ < feltPrime := by norm_num [feltPrime]

/-- **A text that has the number of its name modulo the prime is that of a long name.** -/
theorem IsName.long {s : String} (h : IsName s)
    (hmod : beNat (utf8Bytes (hexOf (beNat (utf8Bytes s)))) % feltPrime = beNat (utf8Bytes s)) :
    15 ≤ s.length := by
  by_contra hshort
  have hlen : (utf8Bytes s).length ≤ 14 := by
    rw [length_utf8Bytes h.ascii]
    omega
  have hn : beNat (utf8Bytes s) < 256 ^ 14 :=
    (beNat_lt _).trans_le (Nat.pow_le_pow_right (by norm_num) hlen)
  rw [Nat.mod_eq_of_lt (beNat_hexOf_lt hn)] at hmod
  exact (lt_beNat_hexOf _).ne' hmod

/-- The number of a name is a felt. -/
theorem IsName.lt {s : String} (h : IsName s) : beNat (utf8Bytes s) < feltPrime := by
  have hlen : (utf8Bytes s).length ≤ 31 := (length_utf8Bytes h.ascii).trans_le h.le
  calc beNat (utf8Bytes s) < 256 ^ (utf8Bytes s).length := beNat_lt _
    _ ≤ 256 ^ 31 := Nat.pow_le_pow_right (by norm_num) hlen
    _ < feltPrime := by norm_num [feltPrime]

/-! ### Names and their texts -/

theorem toChainIdFelt_of_0X {s : String} (h : startsWith s "0X" = true) :
    toChainIdFelt s = some s := by
  rw [toChainIdFelt, h, Bool.or_true, if_pos rfl]

theorem IsName.toChainIdFelt_eq {s : String} (h : IsName s) (h0X : startsWith s "0X" = false) :
    toChainIdFelt s = some (hexOf (beNat (utf8Bytes s))) := by
  have hascii : (s.toList.all fun c => c.toNat < 128) = true :=
    List.all_eq_true.mpr fun c hc => decide_eq_true (h.ascii c hc)
  have hencode : encodeShortString s = some (hexOf (beNat (utf8Bytes s))) :=
    if_pos ⟨hascii, h.le⟩
  rw [toChainIdFelt, h.no0x, h0X, hencode, Option.bind_some, hexNat?_hexOf]
  rfl

/-- Two chain ids give one hash, when Poseidon does not collide, exactly when they are the same. -/
theorem hashOn_eq_iff {input : Ts.Snip36UnsignedTransactionBuildInput} {fetched : String}
    {parsed : Parsed} (hparse : parse fh input fetched = .ok parsed) {c c' : Felt}
    (hno : NoCollision sc.poseidonHashMany (parsed.tx c) (parsed.tx c')) :
    hashOn fh sc input fetched c = hashOn fh sc input fetched c' ↔ c = c' := by
  constructor
  · intro h
    rw [hashOn, hashOn, hparse] at h
    have hhash := fmtFelt_injective (Except.ok.inj h)
    exact congrArg InvokeV3.chainId (computeInvokeV3TxHash_inj hno hhash)
  · rintro rfl
    rfl

/-- The text of a name has the chain id of the name. -/
theorem chainIdFelt_hexOf_iff {s : String} (h : IsName s) :
    Signing.chainIdFelt (hexOf (beNat (utf8Bytes s))) = .ofNat (beNat (utf8Bytes s)) ↔
      beNat (utf8Bytes (hexOf (beNat (utf8Bytes s)))) % feltPrime = beNat (utf8Bytes s) := by
  rw [Signing.chainIdFelt, Felt.fromBytesBeSlice, Fin.ext_iff, Felt.val_ofNat h.lt]
  rfl

/-- **When a name and its text give the same hash**: no field is unreadable that makes both fail,
and the name is passed on as it is, or it is long and its text has its number. -/
theorem sameChain_iff {input : Ts.Snip36UnsignedTransactionBuildInput} {fetched s : String}
    (hname : IsName s)
    (hno : ∀ parsed text, parse fh input fetched = .ok parsed → toChainIdFelt s = some text →
      NoCollision sc.poseidonHashMany (parsed.tx (Signing.chainIdFelt text))
        (parsed.tx (.ofNat (beNat (utf8Bytes s))))) :
    SameChain fh sc input fetched s ↔
      (∃ e, parse fh input fetched = .error e) ∨ startsWith s "0X" = true ∨
        (15 ≤ s.length ∧
          beNat (utf8Bytes (hexOf (beNat (utf8Bytes s)))) % feltPrime = beNat (utf8Bytes s)) := by
  by_cases h0X : startsWith s "0X" = true
  · have hsame : SameChain fh sc input fetched s :=
      ⟨s, toChainIdFelt_of_0X h0X, txHashFor_eq .., txHashFor_eq ..⟩
    exact iff_of_true hsame (.inr (.inl h0X))
  · rw [Bool.not_eq_true] at h0X
    have htext := hname.toChainIdFelt_eq h0X
    have hsame : SameChain fh sc input fetched s ↔
        hashOn fh sc input fetched (Signing.chainIdFelt (hexOf (beNat (utf8Bytes s))))
          = hashOn fh sc input fetched (.ofNat (beNat (utf8Bytes s))) := by
      simp only [SameChain, htext, Option.some.injEq, exists_eq_left', txHashFor_eq]
      exact and_iff_left rfl
    rw [hsame]
    cases hparse : parse fh input fetched with
    | error e =>
        refine iff_of_true ?_ (.inl ⟨e, rfl⟩)
        rw [hashOn, hashOn, hparse]
        rfl
    | ok parsed =>
        rw [hashOn_eq_iff hparse (hno parsed _ hparse htext), chainIdFelt_hexOf_iff hname]
        constructor
        · exact fun hmod => .inr (.inr ⟨hname.long hmod, hmod⟩)
        · rintro (⟨e, he⟩ | h | ⟨-, hmod⟩)
          · cases he
          · rw [h0X] at h
            cases h
          · exact hmod

/-- The name of the test chain. -/
theorem isName_sepolia : IsName "SN_SEPOLIA" where
  ascii := by
    have h : ("SN_SEPOLIA".toList.all fun c => c.toNat < 128) = true := by decide
    exact fun c hc => of_decide_eq_true (List.all_eq_true.mp h c hc)
  pos := by decide
  le := by decide
  no0x := by decide

/-- Its text. -/
theorem toChainIdFelt_sepolia : toChainIdFelt "SN_SEPOLIA" = some "0x534e5f5345504f4c4941" := by
  decide +kernel

/-- What is read of the sample input. -/
def sampleParsed : Parsed := ⟨0x123, [1], 7, .zeroFee⟩

theorem parse_sample : parse sampleHex (sampleUnsigned .undefined) "0x7" = .ok sampleParsed := rfl

/-- The sample transaction, with the chain id that is read of the text. -/
def sampleTextTx : InvokeV3 := sampleParsed.tx (Signing.chainIdFelt "0x534e5f5345504f4c4941")

/-- The sample transaction, with the short string of the name. -/
def sampleNameTx : InvokeV3 := sampleParsed.tx (.ofNat (beNat (utf8Bytes "SN_SEPOLIA")))

theorem noCollision_sepolia : NoCollision sampleCrypto.poseidonHashMany sampleTextTx
    sampleNameTx := by
  have hlists : ∀ l ∈ hashedLists sampleHash sampleTextTx ++ hashedLists sampleHash sampleNameTx,
      ∀ l' ∈ hashedLists sampleHash sampleTextTx ++ hashedLists sampleHash sampleNameTx,
      sampleHash l = sampleHash l' → l = l' := by decide +kernel
  exact fun l hl l' hl' h => hlists l (List.mem_append.mpr hl) l' (List.mem_append.mpr hl') h

theorem sameChain_iff_sample :
    ¬ SameChain sampleHex sampleCrypto (sampleUnsigned .undefined) "0x7" "SN_SEPOLIA" := by
  have hno : ∀ parsed text,
      parse sampleHex (sampleUnsigned .undefined) "0x7" = .ok parsed →
      toChainIdFelt "SN_SEPOLIA" = some text →
      NoCollision sampleCrypto.poseidonHashMany (parsed.tx (Signing.chainIdFelt text))
        (parsed.tx (.ofNat (beNat (utf8Bytes "SN_SEPOLIA")))) := by
    intro parsed text hparse htext
    obtain rfl := Except.ok.inj (parse_sample.symm.trans hparse)
    obtain rfl := Option.some.inj (toChainIdFelt_sepolia.symm.trans htext)
    exact noCollision_sepolia
  intro hsame
  rcases (sameChain_iff isName_sepolia hno).mp hsame with ⟨e, he⟩ | h0X | ⟨hlong, -⟩
  · rw [parse_sample] at he
    cases he
  · exact absurd h0X (by decide)
  · exact absurd hlong (by decide)

/-- The hash of the sample input on the test chain, under its name and under its text. -/
theorem not_sameChain_sepolia :
    IsName "SN_SEPOLIA" ∧
      ¬ SameChain sampleHex sampleCrypto (sampleUnsigned .undefined) "0x7" "SN_SEPOLIA" := by
  refine ⟨isName_sepolia, ?_⟩
  rintro ⟨text, htext, htextHash, -⟩
  obtain rfl := Option.some.inj (toChainIdFelt_sepolia.symm.trans htext)
  rw [txHashFor_eq, hashOn_eq_iff parse_sample noCollision_sepolia] at htextHash
  exact absurd htextHash (by decide +kernel)

end Snip36.Npm
