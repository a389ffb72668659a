import Snip36.Npm.Building

/-!
# The npm package — the target of a call

`buildTransactionForProving` takes a call (a contract, an entrypoint and arguments) and passes the
arguments on as the calldata of the transaction.  `get_snip36_proof` takes the same call, has an
encoder lay out the whole of it (`getExecuteCalldata`), and passes that on.

* `sameTransaction_of_otherTarget`: two inputs of `buildTransactionForProving` that differ in the
  target of the call give one transaction, with one hash.
* `returned_signed`: so do the calls in flight, which return what the function returns.
* `bindsTarget_prepared`: two inputs of `get_snip36_proof` that the encoder tells apart give
  transactions with other calldata and another hash.
-/

namespace Snip36.Npm
open Support Signing

/-! ### Targets -/

/-- Two calls that differ only in the contract, or only in the entrypoint. -/
inductive Ts.Call.OtherTarget (call : Ts.Call) : Ts.Call → Prop where
  | contractAddress {contractAddress : String} (h : contractAddress ≠ call.contractAddress) :
      OtherTarget call { call with contractAddress }
  | entrypoint {entrypoint : String} (h : entrypoint ≠ call.entrypoint) :
      OtherTarget call { call with entrypoint }

/-- A call of another target has the same arguments. -/
theorem Ts.Call.OtherTarget.calldata_eq {call call' : Ts.Call} (h : call.OtherTarget call') :
    call'.calldata = call.calldata := by
  cases h with
  | contractAddress _ => rfl
  | entrypoint _ => rfl

/-- Two builds return, with other calldata and another hash. -/
def BindsTarget (x x' : Except String Snip36TransactionBuildOutput) : Prop :=
  ∃ out out', x = .ok out ∧ x' = .ok out' ∧
    out.transaction.field "calldata" ≠ out'.transaction.field "calldata" ∧
    out.txHash ≠ out'.txHash

/-! ### The two functions -/

section Building

variable (fh : FeltHex) (sc : StarknetCrypto)

/-- `buildTransactionForProving`, with the nonce and the block number that the node answers. -/
def buildTransactionForProving (input : Ts.Snip36TransactionBuildInput) (fetched : String)
    (blockNumber : Except String ℕ) : Except String Snip36TransactionBuildOutput := do
  let blockNumber ← blockNumber
  let built ← buildSnip36Transaction fh sc (input.passed fetched)
  pure ⟨built.txHash, built.transaction, blockNumber⟩

/-- `buildUnsignedTransactionForProving`. -/
def buildUnsignedTransactionForProving (input : Ts.Snip36UnsignedTransactionBuildInput)
    (fetched : String) (blockNumber : Except String ℕ) :
    Except String Snip36TransactionBuildOutput := do
  let blockNumber ← blockNumber
  let built ← buildSnip36UnsignedTransaction fh sc (input.passed fetched)
  pure ⟨built.txHash, built.transaction, blockNumber⟩

/-- The fields of `GetSnip36ProofInput` that the transaction is built from. -/
structure Ts.GetSnip36ProofInput where
  rpcUrl : String
  senderAddress : String
  call : Ts.Call
  nonce : Nullable String
  chainId : String
  resourceBounds : Nullable Ts.ResourceBounds

/-- `x ?? null`. -/
def Nullable.orNull {α : Type} : Nullable α → Nullable α
  | .value x => .value x
  | _ => .null

/-- What `get_snip36_proof` passes to `buildUnsignedTransactionForProving`: the numbers that
`transaction.getExecuteCalldata` lays out, as texts; none when the chain id cannot be encoded. -/
def Ts.GetSnip36ProofInput.prepared (getExecuteCalldata : Ts.Call → List ℕ)
    (input : Ts.GetSnip36ProofInput) : Option Ts.Snip36UnsignedTransactionBuildInput := do
  let chainId ← toChainIdFelt input.chainId
  pure {
    rpcUrl := input.rpcUrl
    senderAddress := input.senderAddress
    calldata := (getExecuteCalldata input.call).map hexOf
    nonce := input.nonce.orNull
    chainId
    resourceBounds := input.resourceBounds.orNull }

end Building

variable {fh : FeltHex} {sc : StarknetCrypto}

/-! ### The target is dropped -/

theorem buildTransactionForProving_eq_ok {input : Ts.Snip36TransactionBuildInput}
    {fetched : String} {blockNumber : Except String ℕ} {out : Snip36TransactionBuildOutput} :
    buildTransactionForProving fh sc input fetched blockNumber = .ok out ↔
      blockNumber = .ok out.blockNumber ∧
        buildSnip36Transaction fh sc (input.passed fetched)
          = .ok ⟨out.txHash, out.transaction⟩ := by
  rw [buildTransactionForProving, bind_eq_ok]
  constructor
  · rintro ⟨n, rfl, h⟩
    obtain ⟨built, hbuilt, h⟩ := bind_eq_ok.mp h
    obtain rfl := pure_eq_ok.mp h
    exact ⟨rfl, hbuilt⟩
  · rintro ⟨hn, hbuilt⟩
    exact ⟨_, hn, bind_eq_ok.mpr ⟨_, hbuilt, rfl⟩⟩

/-- With the nonce given, what is passed does not depend on the nonce that is fetched, nor on the
target of the call. -/
theorem passed_otherTarget {input : Ts.Snip36TransactionBuildInput} {call' : Ts.Call}
    (hnonce : input.nonce.toOption.isSome) (hcall : input.call.OtherTarget call')
    (fetched fetched' : String) :
    ({ input with call := call' }.passed fetched') = input.passed fetched := by
  obtain ⟨nonce, hnonce⟩ := Option.isSome_iff_exists.mp hnonce
  simp only [Ts.Snip36TransactionBuildInput.passed, Ts.nonceOr, hnonce, Option.getD_some,
    hcall.calldata_eq]

/-- **The target of a call is not signed.**  Two inputs that differ only in the contract or only in
the entrypoint of the call, with the nonce given, build one transaction with one hash, whatever the
node answers. -/
theorem sameTransaction_of_otherTarget {input : Ts.Snip36TransactionBuildInput} {call' : Ts.Call}
    (hnonce : input.nonce.toOption.isSome) (hcall : input.call.OtherTarget call')
    (fetched fetched' : String) (blockNumber blockNumber' : Except String ℕ) :
    ¬ BindsTarget (buildTransactionForProving fh sc input fetched blockNumber)
        (buildTransactionForProving fh sc { input with call := call' } fetched' blockNumber') ∧
      ∀ out out', buildTransactionForProving fh sc input fetched blockNumber = .ok out →
        buildTransactionForProving fh sc { input with call := call' } fetched' blockNumber'
          = .ok out' →
        out'.transaction = out.transaction ∧ out'.txHash = out.txHash := by
  have hsame : ∀ out out', buildTransactionForProving fh sc input fetched blockNumber = .ok out →
      buildTransactionForProving fh sc { input with call := call' } fetched' blockNumber'
        = .ok out' →
      out'.transaction = out.transaction ∧ out'.txHash = out.txHash := by
    intro out out' h h'
    obtain ⟨-, hbuilt⟩ := buildTransactionForProving_eq_ok.mp h
    obtain ⟨-, hbuilt'⟩ := buildTransactionForProving_eq_ok.mp h'
    rw [passed_otherTarget hnonce hcall fetched fetched', hbuilt] at hbuilt'
    obtain ⟨htxHash, htransaction⟩ := Snip36TransactionOutput.mk.inj (Except.ok.inj hbuilt')
    exact ⟨htransaction.symm, htxHash.symm⟩
  refine ⟨?_, hsame⟩
  rintro ⟨out, out', h, h', -, htxHash⟩
  exact htxHash (hsame out out' h h').2.symm

/-- A transaction input with the nonce given. -/
def sampleNonced : Ts.Snip36TransactionBuildInput :=
  { sampleSigned .missing with nonce := .value "0x7" }

/-- The same call, of another entrypoint. -/
def sampleReset : Ts.Call := { sampleCall with entrypoint := "reset" }

/-- The same call, of another contract. -/
def sampleElsewhere : Ts.Call := { sampleCall with contractAddress := "0x6" }

theorem sameTransaction_of_otherTarget_sample :
    sampleCall.OtherTarget sampleReset ∧
      ¬ BindsTarget (buildTransactionForProving sampleHex sampleCrypto sampleNonced "0x0" (.ok 5))
        (buildTransactionForProving sampleHex sampleCrypto
          { sampleNonced with call := sampleReset } "0x0" (.ok 6)) := by
  have hcall : sampleCall.OtherTarget sampleReset := .entrypoint (by decide)
  exact ⟨hcall, (@sameTransaction_of_otherTarget sampleHex sampleCrypto sampleNonced _ rfl hcall
    "0x0" "0x0" (.ok 5) (.ok 6)).1⟩

/-- Two contracts, one transaction: both builds return it, and Poseidon does not collide on what it
hashes. -/
theorem not_bindsTarget_elsewhere :
    sampleCall.OtherTarget sampleElsewhere ∧
      (∃ out, buildTransactionForProving sampleHex sampleCrypto sampleNonced "0x0" (.ok 5)
          = .ok out ∧
        buildTransactionForProving sampleHex sampleCrypto
          { sampleNonced with call := sampleElsewhere } "0x0" (.ok 5) = .ok out ∧
        decodeInvokeV3 sampleHex (Signing.chainIdFelt "SN_SEPOLIA") out.transaction
          = some sampleNameTx) ∧
      NoCollision sampleCrypto.poseidonHashMany sampleNameTx sampleNameTx ∧
      ¬ BindsTarget (buildTransactionForProving sampleHex sampleCrypto sampleNonced "0x0" (.ok 5))
        (buildTransactionForProving sampleHex sampleCrypto
          { sampleNonced with call := sampleElsewhere } "0x0" (.ok 5)) := by
  have hdecoded : (buildTransactionForProving sampleHex sampleCrypto sampleNonced "0x0"
      (.ok 5)).toOption.bind (fun out =>
        decodeInvokeV3 sampleHex (Signing.chainIdFelt "SN_SEPOLIA") out.transaction)
      = some sampleNameTx := by decide +kernel
  obtain ⟨out, hsome, htx⟩ := Option.bind_eq_some_iff.mp hdecoded
  have hout := toOption_eq_some.mp hsome
  have hout' : buildTransactionForProving sampleHex sampleCrypto
      { sampleNonced with call := sampleElsewhere } "0x0" (.ok 5) = .ok out := hout
  refine ⟨.contractAddress (by decide), ⟨out, hout, hout', htx⟩, ?_, ?_⟩
  · exact noCollision_sepolia.mono fun l hl => .inr (hl.elim id id)
  · rintro ⟨out₁, out₂, h₁, h₂, -, htxHash⟩
    obtain rfl := Except.ok.inj (h₁.symm.trans hout)
    obtain rfl := Except.ok.inj (h₂.symm.trans hout')
    exact htxHash rfl

/-- What a call in flight returns is what the function returns. -/
theorem returned_signed {chain : List Nonces} {es : List BuildEvent} {s : Builder}
    (hrun : Run (buildStep fh sc) (.new chain) es s) :
    ∀ input out, (.signed input, .ok out) ∈ s.returned → ∃ fetched,
      buildTransactionForProving fh sc input fetched (.ok out.blockNumber) = .ok out := by
  refine hrun.invariant (P := fun s => ∀ input out, (.signed input, .ok out) ∈ s.returned →
    ∃ fetched, buildTransactionForProving fh sc input fetched (.ok out.blockNumber) = .ok out)
    (fun _ _ hmem => absurd hmem List.not_mem_nil) ?_
  intro s e s' hinv hs input out hmem
  rcases buildStep_cases hs with ⟨nonces, -, rfl⟩ | ⟨id, request, -, rfl⟩ |
    ⟨id, call, message, -, rfl⟩ | ⟨id, call, -, rfl⟩
  · exact hinv input out hmem
  · exact hinv input out hmem
  · rcases List.mem_append.mp hmem with hmem | hmem
    · exact hinv input out hmem
    · cases (Prod.mk.inj (List.mem_singleton.mp hmem)).2
  · rw [Builder.proceed] at hmem
    split at hmem
    next fetched blockNumber _ _ =>
      rcases List.mem_append.mp hmem with hmem | hmem
      · exact hinv input out hmem
      · obtain ⟨hrequest, hresult⟩ := Prod.mk.inj (List.mem_singleton.mp hmem)
        obtain ⟨built, hbuilt, rfl⟩ := map_eq_ok.mp hresult.symm
        rw [← hrequest] at hbuilt
        exact ⟨fetched.text, buildTransactionForProving_eq_ok.mpr ⟨rfl, hbuilt⟩⟩
    next => exact hinv input out hmem

/-! ### The encoder keeps the target -/

/-- The felts that an encoder lays out. -/
theorem mapM_feltFromHex_hexOf {ns : List ℕ} (h : ∀ n ∈ ns, n < feltPrime) :
    (ns.map hexOf).mapM (feltFromHex fh) = .ok (ns.map Felt.ofNat) := by
  induction ns with
  | nil => rfl
  | cons n ns ih =>
      obtain ⟨hn, hns⟩ := List.forall_mem_cons.mp h
      have hhex : feltFromHex fh (hexOf n) = .ok (Felt.ofNat n) :=
        feltFromHex_eq_ok.mpr (fromHex_hexOf hn)
      rw [List.map_cons, List.mapM_cons, hhex, ih hns]
      rfl

/-- **What is built from an unsigned input** has the calldata that is read of it, and the hash. -/
theorem buildUnsignedTransactionForProving_ok {input : Ts.Snip36UnsignedTransactionBuildInput}
    {fetched : String} {blockNumber : Except String ℕ} {out : Snip36TransactionBuildOutput}
    (h : buildUnsignedTransactionForProving fh sc input fetched blockNumber = .ok out) :
    ∃ parsed, parse fh input fetched = .ok parsed ∧
      input.calldata.mapM (feltFromHex fh) = .ok parsed.calldata ∧
      out.txHash = fmtFelt (computeInvokeV3TxHash sc.poseidonHashMany
        (parsed.tx (Signing.chainIdFelt input.chainId))) ∧
      out.transaction.field "calldata" = some (strings (parsed.calldata.map fmtFelt)) := by
  obtain ⟨n, -, h⟩ := bind_eq_ok.mp h
  obtain ⟨built, hbuilt, h⟩ := bind_eq_ok.mp h
  obtain rfl := pure_eq_ok.mp h
  obtain ⟨r, hr, hbuilt⟩ := bind_eq_ok.mp hbuilt
  have hread := okOr_eq_ok.mp hr
  rw [input.unsignedTransactionInput_passed] at hread
  obtain ⟨bounds, -, rfl⟩ := Option.map_eq_some_iff.mp hread
  obtain ⟨sender, hsender, hbuilt⟩ := bind_eq_ok.mp (mapError_eq_ok.mp hbuilt)
  obtain ⟨calldata, hcalldata, hbuilt⟩ := bind_eq_ok.mp hbuilt
  obtain ⟨nonce, hnonce, hbuilt⟩ := bind_eq_ok.mp hbuilt
  obtain rfl := pure_eq_ok.mp hbuilt
  refine ⟨⟨sender, calldata, nonce, bounds.getD .zeroFee⟩, ?_, hcalldata, rfl, rfl⟩
  refine bind_eq_ok.mpr ⟨_, hr, mapError_eq_ok.mpr ?_⟩
  exact bind_eq_ok.mpr ⟨sender, hsender, bind_eq_ok.mpr ⟨calldata, hcalldata,
    bind_eq_ok.mpr ⟨nonce, hnonce, rfl⟩⟩⟩

theorem Ts.GetSnip36ProofInput.calldata_of_prepared {getExecuteCalldata : Ts.Call → List ℕ}
    {input : Ts.GetSnip36ProofInput} {prepared : Ts.Snip36UnsignedTransactionBuildInput}
    (h : input.prepared getExecuteCalldata = some prepared) :
    prepared.calldata = (getExecuteCalldata input.call).map hexOf := by
  obtain ⟨chainId, -, h⟩ := Option.bind_eq_some_iff.mp h
  obtain rfl := Option.some.inj h
  rfl

/-- The felts of two lists of numbers below the prime are the same only if the numbers are. -/
theorem map_ofNat_inj {ns ns' : List ℕ} (h : ∀ n ∈ ns, n < feltPrime)
    (h' : ∀ n ∈ ns', n < feltPrime) (heq : ns.map Felt.ofNat = ns'.map Felt.ofNat) : ns = ns' := by
  have hval : ∀ {ns : List ℕ}, (∀ n ∈ ns, n < feltPrime) →
      (ns.map Felt.ofNat).map Fin.val = ns := by
    intro ns hns
    rw [List.map_map]
    exact (List.map_congr_left fun n hn => Felt.val_ofNat (hns n hn)).trans (List.map_id ns)
  rw [← hval h, ← hval h', heq]

/-- **The other function signs the whole call.**  Two inputs of `get_snip36_proof` that differ only
in the call give transactions with other calldata and another hash, where the encoder tells the
calls apart and Poseidon does not collide on what is hashed. -/
theorem bindsTarget_prepared {getExecuteCalldata : Ts.Call → List ℕ}
    (hfelts : ∀ call, ∀ n ∈ getExecuteCalldata call, n < feltPrime)
    {input : Ts.GetSnip36ProofInput} {call' : Ts.Call}
    (hencoder : getExecuteCalldata input.call ≠ getExecuteCalldata call')
    {prepared prepared' : Ts.Snip36UnsignedTransactionBuildInput}
    (hprepared : input.prepared getExecuteCalldata = some prepared)
    (hprepared' : { input with call := call' }.prepared getExecuteCalldata = some prepared')
    {fetched fetched' : String} {blockNumber blockNumber' : Except String ℕ}
    (hno : ∀ parsed parsed', parse fh prepared fetched = .ok parsed →
      parse fh prepared' fetched' = .ok parsed' →
      NoCollision sc.poseidonHashMany (parsed.tx (Signing.chainIdFelt prepared.chainId))
        (parsed'.tx (Signing.chainIdFelt prepared'.chainId)))
    {out out' : Snip36TransactionBuildOutput}
    (h : buildUnsignedTransactionForProving fh sc prepared fetched blockNumber = .ok out)
    (h' : buildUnsignedTransactionForProving fh sc prepared' fetched' blockNumber' = .ok out') :
    BindsTarget (.ok out) (.ok out') := by
  obtain ⟨parsed, hparse, hread, htxHash, hfield⟩ := buildUnsignedTransactionForProving_ok h
  obtain ⟨parsed', hparse', hread', htxHash', hfield'⟩ := buildUnsignedTransactionForProving_ok h'
  -- The numbers that the encoder lays out are read back from their texts.
  have hcalldata : parsed.calldata ≠ parsed'.calldata := by
    rw [Ts.GetSnip36ProofInput.calldata_of_prepared hprepared,
      mapM_feltFromHex_hexOf (hfelts _)] at hread
    rw [Ts.GetSnip36ProofInput.calldata_of_prepared hprepared',
      mapM_feltFromHex_hexOf (hfelts _)] at hread'
    rw [← Except.ok.inj hread, ← Except.ok.inj hread']
    exact fun heq => hencoder (map_ofNat_inj (hfelts _) (hfelts _) heq)
  refine ⟨out, out', rfl, rfl, ?_, ?_⟩
  · rw [hfield, hfield']
    intro heq
    have hread := congrArg (feltValues fh) (Option.some.inj heq)
    rw [feltValues_strings, feltValues_strings] at hread
    exact hcalldata (Option.some.inj hread)
  · rw [htxHash, htxHash']
    intro heq
    have htx := computeInvokeV3TxHash_inj (hno parsed parsed' hparse hparse')
      (fmtFelt_injective heq)
    exact hcalldata (congrArg InvokeV3.calldata htx)

end Snip36.Npm
