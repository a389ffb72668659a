import Snip36.Npm.ChainId
import Snip36.Support.Runs

/-!
# The npm package — the nonce and the block of a transaction

`buildTransactionForProving` and `buildUnsignedTransactionForProving` ask a node for the sender's
nonce and for the latest block number, at once and each on its own, and take a nonce that cannot be
fetched for zero.  The node answers in any order, and its chain goes on in between.

`nonceAtBlock_iff`: every transaction that is returned has its sender's nonce as of the block
that is returned with it, exactly when the sender's nonce in that block is the one in the block that
the node answered the nonce from, and zero if it did not.
-/

namespace Snip36.Npm
open Support Signing

/-! ### What is built -/

/-- A call of `buildTransactionForProving` or of `buildUnsignedTransactionForProving`. -/
inductive BuildRequest where
  | signed (input : Ts.Snip36TransactionBuildInput)
  | unsigned (input : Ts.Snip36UnsignedTransactionBuildInput)

namespace BuildRequest

/-- `input.sender_address`. -/
def senderAddress : BuildRequest → String
  | .signed input => input.senderAddress
  | .unsigned input => input.senderAddress

/-- `input.nonce`. -/
def nonce : BuildRequest → Nullable String
  | .signed input => input.nonce
  | .unsigned input => input.nonce

/-- What the wasm crate builds, with a nonce that was fetched. -/
def build (fh : FeltHex) (sc : StarknetCrypto) (fetched : String) :
    BuildRequest → Except String Snip36TransactionOutput
  | .signed input => buildSnip36Transaction fh sc (input.passed fetched)
  | .unsigned input => buildSnip36UnsignedTransaction fh sc (input.passed fetched)

end BuildRequest

/-- `Snip36TransactionBuildOutput`. -/
structure Snip36TransactionBuildOutput where
  txHash : String
  transaction : Json
  blockNumber : ℕ

/-- The nonces of the accounts in the state after a block. -/
abbrev Nonces := Felt → Felt

/-- What `input.nonce ?? fetchNonce(..)` comes to. -/
inductive FetchedNonce where
  | supplied (nonce : String)
  /-- The node answered from the block at a height. -/
  | read (height : ℕ) (nonce : Felt)
  /-- `catch { return "0x0"; }` -/
  | failed

/-- The nonce as a text. -/
def FetchedNonce.text : FetchedNonce → String
  | .supplied nonce => nonce
  | .read _ nonce => fmtFelt nonce
  | .failed => "0x0"

/-- A call in flight, with the answers that it has. -/
structure BuildCall where
  request : BuildRequest
  nonce : Option FetchedNonce
  blockNumber : Option ℕ

/-- A call that has just been made. -/
def BuildCall.new (request : BuildRequest) : BuildCall where
  request := request
  nonce := request.nonce.toOption.map .supplied
  blockNumber := none

/-- The chain, oldest block first, the calls in flight, and what was returned. -/
structure Builder where
  chain : List Nonces
  nextId : ℕ
  calls : ℕ → Option BuildCall
  returned : List (BuildRequest × Except String Snip36TransactionBuildOutput)

/-- A chain, and no call yet. -/
def Builder.new (chain : List Nonces) : Builder := ⟨chain, 0, fun _ => none, []⟩

/-- What happens. -/
inductive BuildEvent where
  | block (nonces : Nonces)
  | call (id : ℕ) (request : BuildRequest)
  /-- The node answers `getNonceForAddress`, or the request fails. -/
  | nonceAnswer (id : ℕ) (served : Bool)
  /-- The node answers `starknet_blockNumber`, or the request fails. -/
  | blockAnswer (id : ℕ) (outcome : Except String Unit)

section Steps

variable (fh : FeltHex) (sc : StarknetCrypto)

/-- The nonce of a sender at the head of the chain; none when the sender is no felt or there is no
block. -/
def headNonce (chain : List Nonces) (senderAddress : String) : Option FetchedNonce := do
  let sender ← (fh.fromHex senderAddress).toOption
  let nonces ← chain.getLast?
  pure (.read (chain.length - 1) (nonces sender))

/-- What `fetchNonce` returns, when the node answers and when the request fails. -/
def fetchNonce (chain : List Nonces) (senderAddress : String) : Bool → Option FetchedNonce
  | true => headNonce fh chain senderAddress
  | false => some .failed

/-- The call that an event answers, with the answer. -/
def answeredCall (s : Builder) : BuildEvent → Option (ℕ × BuildCall)
  | .nonceAnswer id served => do
      let call ← s.calls id
      guard call.nonce.isNone
      let nonce ← fetchNonce fh s.chain call.request.senderAddress served
      pure (id, { call with nonce := some nonce })
  | .blockAnswer id (.ok ()) => do
      let call ← s.calls id
      guard call.blockNumber.isNone
      guard (s.chain ≠ [])
      pure (id, { call with blockNumber := some (s.chain.length - 1) })
  | _ => none

/-- A call returns. -/
def Builder.returns (s : Builder) (id : ℕ) (request : BuildRequest)
    (result : Except String Snip36TransactionBuildOutput) : Builder :=
  { s with
    calls := Function.update s.calls id none
    returned := s.returned ++ [(request, result)] }

/-- A call goes on with an answer: when it has both, it builds. -/
def Builder.proceed (s : Builder) (id : ℕ) (call : BuildCall) : Builder :=
  match call.nonce, call.blockNumber with
  | some nonce, some blockNumber =>
      s.returns id call.request ((call.request.build fh sc nonce.text).map fun built =>
        ⟨built.txHash, built.transaction, blockNumber⟩)
  | _, _ => { s with calls := Function.update s.calls id (some call) }

/-- One move. -/
def buildStep (s : Builder) : BuildEvent → Option Builder
  | .block nonces => some { s with chain := s.chain ++ [nonces] }
  | .call id request =>
      if id = s.nextId then
        some { s with
          nextId := id + 1
          calls := Function.update s.calls id (some (.new request)) }
      else none
  | .blockAnswer id (.error e) =>
      (s.calls id).bind fun call =>
        if call.blockNumber.isNone then some (s.returns id call.request (.error e)) else none
  | e => (answeredCall fh s e).map fun answered => s.proceed fh sc answered.1 answered.2

end Steps

/-! ### The nonce of what is built -/

section Nonce

variable {fh : FeltHex} {sc : StarknetCrypto}

/-- The nonce of a transaction. -/
def nonceOf (fh : FeltHex) (transaction : Json) : Option Felt :=
  (transaction.field "nonce").bind (feltValue fh)

theorem nonceOf_signed {input : Snip36TransactionInput} {out : Snip36TransactionOutput}
    (h : buildTransactionFromJson fh sc input = .ok out) :
    ∃ sender nonce, fh.fromHex input.senderAddress = .ok sender ∧
      fh.fromHex input.nonce = .ok nonce ∧ nonceOf fh out.transaction = some nonce := by
  obtain ⟨sender, hsender, h⟩ := bind_eq_ok.mp h
  obtain ⟨_, -, h⟩ := bind_eq_ok.mp h
  obtain ⟨_, -, h⟩ := bind_eq_ok.mp h
  obtain ⟨nonce, hnonce, h⟩ := bind_eq_ok.mp h
  obtain ⟨sig, -, h⟩ := bind_eq_ok.mp h
  obtain rfl := pure_eq_ok.mp h
  exact ⟨sender, nonce, feltFromHex_eq_ok.mp hsender, feltFromHex_eq_ok.mp hnonce,
    by simp [nonceOf]⟩

theorem nonceOf_unsigned {input : Snip36UnsignedTransactionInput} {out : Snip36TransactionOutput}
    (h : buildUnsignedTransactionFromJson fh sc input = .ok out) :
    ∃ sender nonce, fh.fromHex input.senderAddress = .ok sender ∧
      fh.fromHex input.nonce = .ok nonce ∧ nonceOf fh out.transaction = some nonce := by
  obtain ⟨sender, hsender, h⟩ := bind_eq_ok.mp h
  obtain ⟨_, -, h⟩ := bind_eq_ok.mp h
  obtain ⟨nonce, hnonce, h⟩ := bind_eq_ok.mp h
  obtain rfl := pure_eq_ok.mp h
  exact ⟨sender, nonce, feltFromHex_eq_ok.mp hsender, feltFromHex_eq_ok.mp hnonce,
    by simp [nonceOf]⟩

/-- **What is built has the sender, and the nonce that was fetched.** -/
theorem BuildRequest.build_ok {request : BuildRequest} {fetched : String}
    {out : Snip36TransactionOutput} (hnone : request.nonce.toOption = none)
    (h : request.build fh sc fetched = .ok out) :
    ∃ sender nonce, fh.fromHex request.senderAddress = .ok sender ∧
      fh.fromHex fetched = .ok nonce ∧ nonceOf fh out.transaction = some nonce := by
  cases request with
  | signed input =>
      have hfetched : Ts.nonceOr input.nonce fetched = fetched := by
        rw [Ts.nonceOr, show input.nonce.toOption = none from hnone, Option.getD_none]
      obtain ⟨r, hr, h⟩ := bind_eq_ok.mp h
      rw [okOr_eq_ok, input.transactionInput_passed] at hr
      obtain ⟨bounds, -, rfl⟩ := Option.map_eq_some_iff.mp hr
      have hbuilt := nonceOf_signed (mapError_eq_ok.mp h)
      rwa [hfetched] at hbuilt
  | unsigned input =>
      have hfetched : Ts.nonceOr input.nonce fetched = fetched := by
        rw [Ts.nonceOr, show input.nonce.toOption = none from hnone, Option.getD_none]
      obtain ⟨r, hr, h⟩ := bind_eq_ok.mp h
      rw [okOr_eq_ok, input.unsignedTransactionInput_passed] at hr
      obtain ⟨bounds, -, rfl⟩ := Option.map_eq_some_iff.mp hr
      have hbuilt := nonceOf_unsigned (mapError_eq_ok.mp h)
      rwa [hfetched] at hbuilt

/-- A transaction has its sender's nonce as of the block that was returned with it. -/
def Snip36TransactionBuildOutput.AtBlock (fh : FeltHex) (chain : List Nonces)
    (request : BuildRequest) (out : Snip36TransactionBuildOutput) : Prop :=
  ∃ sender nonces, fh.fromHex request.senderAddress = .ok sender ∧
    chain[out.blockNumber]? = some nonces ∧ nonceOf fh out.transaction = some (nonces sender)

/-- Every transaction that was returned, with no nonce supplied, has its sender's nonce as of the
block that was returned with it. -/
def NonceAtBlock (fh : FeltHex) (s : Builder) : Prop :=
  ∀ request out, (request, .ok out) ∈ s.returned → request.nonce.toOption = none →
    out.AtBlock fh s.chain request

/-- The nonce of a sender in a block is the one in the block that a nonce was read from, and zero
if none was read. -/
def FetchedNonce.IsThatOf (chain : List Nonces) (sender : Felt) (nonces : Nonces) :
    FetchedNonce → Prop
  | .supplied _ => True
  | .read height _ => ∃ before ∈ chain[height]?, before sender = nonces sender
  | .failed => nonces sender = 0

/-- If a call builds, then its nonce is that of its block. -/
def BuildCall.SameNonce (fh : FeltHex) (sc : StarknetCrypto) (chain : List Nonces)
    (call : BuildCall) : Prop :=
  call.request.nonce.toOption = none →
    ∀ fetched ∈ call.nonce, ∀ blockNumber ∈ call.blockNumber,
      (call.request.build fh sc fetched.text).isOk →
        ∀ sender ∈ (fh.fromHex call.request.senderAddress).toOption,
          ∀ nonces ∈ chain[blockNumber]?, fetched.IsThatOf chain sender nonces

/-- The call that an event answers has, if it builds, the nonce of its block. -/
def StillCurrent (fh : FeltHex) (sc : StarknetCrypto) (s : Builder) (e : BuildEvent) : Prop :=
  ∀ answered ∈ answeredCall fh s e, answered.2.SameNonce fh sc s.chain

/-- Whether a call, with both its answers, read its nonce from the block that it returns. -/
def BuildCall.readsAtBlock (call : BuildCall) : Bool :=
  match call.nonce, call.blockNumber with
  | some (.read height _), some blockNumber => height == blockNumber
  | some _, some _ => false
  | _, _ => true

/-- The nonce of a block that was read from the block is that of the block. -/
theorem BuildCall.sameNonce_of_readsAtBlock {chain : List Nonces} {call : BuildCall}
    (h : call.readsAtBlock = true) : call.SameNonce fh sc chain := by
  intro _ fetched hfetched blockNumber hnumber _ sender _ nonces hblock
  rw [readsAtBlock, Option.mem_def.mp hfetched, Option.mem_def.mp hnumber] at h
  cases fetched with
  | supplied nonce => cases h
  | read height nonce =>
      obtain rfl : height = blockNumber := eq_of_beq h
      exact ⟨nonces, hblock, rfl⟩
  | failed => cases h

/-! ### What a call knows -/

/-- The answers of a call come from the chain. -/
structure BuildCall.FromChain (fh : FeltHex) (chain : List Nonces) (call : BuildCall) : Prop where
  supplied : ∀ nonce, call.nonce = some (.supplied nonce) →
    call.request.nonce.toOption = some nonce
  read : ∀ height nonce, call.nonce = some (.read height nonce) →
    ∃ sender nonces, fh.fromHex call.request.senderAddress = .ok sender ∧
      chain[height]? = some nonces ∧ nonces sender = nonce
  block : ∀ blockNumber, call.blockNumber = some blockNumber → blockNumber < chain.length

/-- The answers of every call in flight come from the chain. -/
def Builder.FromChain (fh : FeltHex) (s : Builder) : Prop :=
  ∀ id call, s.calls id = some call → call.FromChain fh s.chain

/-- A block of a chain stays where it is. -/
theorem getElem?_grow {chain : List Nonces} {height : ℕ} {nonces : Nonces}
    (h : chain[height]? = some nonces) (nonces' : Nonces) :
    (chain ++ [nonces'])[height]? = some nonces := by
  have hlt : height < chain.length := (List.getElem?_eq_some_iff.mp h).1
  rw [List.getElem?_append_left hlt, h]

theorem BuildCall.FromChain.grow {chain : List Nonces} {call : BuildCall}
    (h : call.FromChain fh chain) (nonces' : Nonces) : call.FromChain fh (chain ++ [nonces']) where
  supplied := h.supplied
  read := by
    intro height nonce hnonce
    obtain ⟨sender, nonces, hsender, hblock, hread⟩ := h.read height nonce hnonce
    exact ⟨sender, nonces, hsender, getElem?_grow hblock nonces', hread⟩
  block := by
    intro blockNumber hblock
    have hlt := h.block blockNumber hblock
    rw [List.length_append]
    omega

theorem BuildCall.fromChain_new (chain : List Nonces) (request : BuildRequest) :
    (BuildCall.new request).FromChain fh chain where
  supplied := by
    intro nonce hnonce
    obtain ⟨supplied, hsupplied, heq⟩ := Option.map_eq_some_iff.mp hnonce
    obtain rfl := FetchedNonce.supplied.inj heq
    exact hsupplied
  read := by
    intro height nonce hnonce
    obtain ⟨supplied, -, heq⟩ := Option.map_eq_some_iff.mp hnonce
    cases heq
  block := by
    intro blockNumber hblock
    cases hblock

theorem headNonce_eq_some {chain : List Nonces} {senderAddress : String} {fetched : FetchedNonce}
    (h : headNonce fh chain senderAddress = some fetched) :
    ∃ sender nonces, fh.fromHex senderAddress = .ok sender ∧
      chain[chain.length - 1]? = some nonces ∧
      fetched = .read (chain.length - 1) (nonces sender) := by
  obtain ⟨sender, hsender, h⟩ := Option.bind_eq_some_iff.mp h
  obtain ⟨nonces, hlast, h⟩ := Option.bind_eq_some_iff.mp h
  rw [List.getLast?_eq_getElem?] at hlast
  exact ⟨sender, nonces, toOption_eq_some.mp hsender, hlast, (Option.some.inj h).symm⟩

/-- An answer comes from the chain. -/
theorem fromChain_answeredCall {s : Builder} {e : BuildEvent} {id : ℕ} {call : BuildCall}
    (hinv : s.FromChain fh) (h : answeredCall fh s e = some (id, call)) :
    call.FromChain fh s.chain := by
  cases e with
  | block nonces => cases h
  | call id' request => cases h
  | nonceAnswer id' served =>
      obtain ⟨call', hcall, h⟩ := Option.bind_eq_some_iff.mp h
      obtain ⟨-, -, h⟩ := Option.bind_eq_some_iff.mp h
      obtain ⟨fetched, hfetched, h⟩ := Option.bind_eq_some_iff.mp h
      obtain ⟨-, rfl⟩ := Prod.mk.inj (Option.some.inj h)
      have hbefore := hinv id' call' hcall
      cases served with
      | true =>
          obtain ⟨sender, nonces, hsender, hblock, rfl⟩ := headNonce_eq_some hfetched
          refine ⟨fun _ hnonce => (nomatch hnonce), ?_, hbefore.block⟩
          intro height nonce hnonce
          obtain ⟨rfl, rfl⟩ := FetchedNonce.read.inj (Option.some.inj hnonce)
          exact ⟨sender, nonces, hsender, hblock, rfl⟩
      | false =>
          obtain rfl := Option.some.inj hfetched
          exact ⟨fun _ hnonce => (nomatch hnonce), fun _ _ hnonce => (nomatch hnonce),
            hbefore.block⟩
  | blockAnswer id' outcome =>
      cases outcome with
      | error message => cases h
      | ok _ =>
          obtain ⟨call', hcall, h⟩ := Option.bind_eq_some_iff.mp h
          obtain ⟨-, -, h⟩ := Option.bind_eq_some_iff.mp h
          obtain ⟨_, hguard, h⟩ := Option.bind_eq_some_iff.mp h
          obtain ⟨-, rfl⟩ := Prod.mk.inj (Option.some.inj h)
          have hchain : s.chain ≠ [] := by simpa using hguard
          have hbefore := hinv id' call' hcall
          refine ⟨hbefore.supplied, hbefore.read, ?_⟩
          intro blockNumber hblock
          obtain rfl := Option.some.inj hblock
          have hlen := List.length_pos_of_ne_nil hchain
          omega

/-! ### Moves -/

/-- **What can happen**: the chain grows, a call is made, a call ends with no block number, or a
call goes on with an answer. -/
theorem buildStep_cases {s s' : Builder} {e : BuildEvent} (h : buildStep fh sc s e = some s') :
    (∃ nonces, e = .block nonces ∧ s' = { s with chain := s.chain ++ [nonces] }) ∨
    (∃ id request, e = .call id request ∧
      s' = { s with
        nextId := id + 1
        calls := Function.update s.calls id (some (.new request)) }) ∨
    (∃ (id : ℕ) (call : BuildCall) (message : String), e = .blockAnswer id (.error message) ∧
      s' = s.returns id call.request (.error message)) ∨
    (∃ id call, answeredCall fh s e = some (id, call) ∧ s' = s.proceed fh sc id call) := by
  cases e with
  | block nonces => exact .inl ⟨nonces, rfl, (Option.some.inj h).symm⟩
  | call id request =>
      change (if id = s.nextId then _ else _) = _ at h
      split at h
      · exact .inr (.inl ⟨id, request, rfl, (Option.some.inj h).symm⟩)
      · cases h
  | nonceAnswer id served =>
      obtain ⟨⟨id', call⟩, hanswered, rfl⟩ := Option.map_eq_some_iff.mp h
      exact .inr (.inr (.inr ⟨id', call, hanswered, rfl⟩))
  | blockAnswer id outcome =>
      cases outcome with
      | error message =>
          obtain ⟨call, -, h⟩ := Option.bind_eq_some_iff.mp h
          split at h
          · exact .inr (.inr (.inl ⟨id, call, message, rfl, (Option.some.inj h).symm⟩))
          · cases h
      | ok _ =>
          obtain ⟨⟨id', call⟩, hanswered, rfl⟩ := Option.map_eq_some_iff.mp h
          exact .inr (.inr (.inr ⟨id', call, hanswered, rfl⟩))

theorem Builder.fromChain_new (chain : List Nonces) : (Builder.new chain).FromChain fh :=
  fun _ _ h => nomatch h

/-- The calls in flight are those of before, less one that returns. -/
theorem Builder.FromChain.returns {s : Builder} (hinv : s.FromChain fh) (id : ℕ)
    (request : BuildRequest) (result : Except String Snip36TransactionBuildOutput) :
    (s.returns id request result).FromChain fh := by
  intro id' call' hcall'
  rcases eq_or_ne id' id with rfl | hne
  · change Function.update s.calls id' none id' = _ at hcall'
    rw [Function.update_self] at hcall'
    cases hcall'
  · change Function.update s.calls id none id' = _ at hcall'
    rw [Function.update_of_ne hne] at hcall'
    exact hinv id' call' hcall'

/-- **The answers of the calls in flight come from the chain, after every move.** -/
theorem fromChain_buildStep {s s' : Builder} {e : BuildEvent} (hinv : s.FromChain fh)
    (h : buildStep fh sc s e = some s') : s'.FromChain fh := by
  have hupdate {id : ℕ} {call : BuildCall} (hcall : call.FromChain fh s.chain) :
      ∀ id' call', Function.update s.calls id (some call) id' = some call' →
        call'.FromChain fh s.chain := by
    intro id' call' hcall'
    rcases eq_or_ne id' id with rfl | hne
    · rw [Function.update_self] at hcall'
      obtain rfl := Option.some.inj hcall'
      exact hcall
    · rw [Function.update_of_ne hne] at hcall'
      exact hinv id' call' hcall'
  rcases buildStep_cases h with ⟨nonces, -, rfl⟩ | ⟨id, request, -, rfl⟩ |
    ⟨id, call, message, -, rfl⟩ | ⟨id, call, hanswered, rfl⟩
  · exact fun id call hcall => (hinv id call hcall).grow nonces
  · exact hupdate (BuildCall.fromChain_new s.chain request)
  · exact hinv.returns id call.request _
  · rw [Builder.proceed]
    split
    · exact hinv.returns id call.request _
    · exact hupdate (fromChain_answeredCall hinv hanswered)

/-! ### The nonce and the block -/

/-- The nonce that is built with is that of a block, exactly when it was read as such. -/
theorem BuildCall.FromChain.isThatOf_iff {chain : List Nonces} {call : BuildCall}
    (hinv : call.FromChain fh chain) {fetched : FetchedNonce} {sender nonce : Felt}
    (nonces : Nonces) (hnone : call.request.nonce.toOption = none)
    (hfetched : call.nonce = some fetched)
    (hsender : fh.fromHex call.request.senderAddress = .ok sender)
    (hnonce : fh.fromHex fetched.text = .ok nonce) :
    fetched.IsThatOf chain sender nonces ↔ nonce = nonces sender := by
  cases fetched with
  | supplied supplied =>
      have hsupplied := hinv.supplied supplied hfetched
      rw [hnone] at hsupplied
      cases hsupplied
  | read height value =>
      obtain rfl : value = nonce :=
        Except.ok.inj ((fh.fromHex_fmtFelt value).symm.trans hnonce)
      obtain ⟨sender', before, hsender', hblock, rfl⟩ := hinv.read height value hfetched
      obtain rfl : sender' = sender := Except.ok.inj (hsender'.symm.trans hsender)
      constructor
      · rintro ⟨before', hblock', hsame⟩
        obtain rfl : before = before' := Option.some.inj (hblock.symm.trans hblock')
        exact hsame
      · exact fun hsame => ⟨before, hblock, hsame⟩
  | failed =>
      have hzero : fh.fromHex "0x0" = .ok 0 := fh.fromHex_fmtFelt 0
      obtain rfl : (0 : Felt) = nonce := Except.ok.inj (hzero.symm.trans hnonce)
      exact eq_comm

/-- **What a call returns has the nonce of its block exactly when its nonce is that of the
block.** -/
theorem BuildCall.FromChain.atBlock_iff {chain : List Nonces} {call : BuildCall}
    (hinv : call.FromChain fh chain) {fetched : FetchedNonce} {blockNumber : ℕ}
    {built : Snip36TransactionOutput} (hnone : call.request.nonce.toOption = none)
    (hfetched : call.nonce = some fetched) (hnumber : call.blockNumber = some blockNumber)
    (hbuilt : call.request.build fh sc fetched.text = .ok built) :
    Snip36TransactionBuildOutput.AtBlock fh chain call.request
        ⟨built.txHash, built.transaction, blockNumber⟩ ↔ call.SameNonce fh sc chain := by
  obtain ⟨sender, nonce, hsender, hnonce, hof⟩ := BuildRequest.build_ok hnone hbuilt
  obtain ⟨nonces, hblock⟩ : ∃ nonces, chain[blockNumber]? = some nonces :=
    ⟨_, List.getElem?_eq_getElem (hinv.block blockNumber hnumber)⟩
  have hiff := hinv.isThatOf_iff nonces hnone hfetched hsender hnonce
  constructor
  · rintro ⟨sender₁, nonces₁, hsender₁, hblock₁, hof₁⟩ - fetched₂ hfetched₂ blockNumber₂ hnumber₂ -
      sender₂ hsender₂ nonces₂ hblock₂
    obtain rfl := Option.some.inj (hfetched.symm.trans hfetched₂)
    obtain rfl := Option.some.inj (hnumber.symm.trans hnumber₂)
    obtain rfl := Except.ok.inj (hsender.symm.trans hsender₁)
    obtain rfl := Except.ok.inj (hsender.symm.trans (toOption_eq_some.mp hsender₂))
    obtain rfl := Option.some.inj (hblock.symm.trans hblock₁)
    obtain rfl := Option.some.inj (hblock.symm.trans hblock₂)
    exact hiff.mpr (Option.some.inj (hof.symm.trans hof₁))
  · intro hsame
    have hok : (call.request.build fh sc fetched.text).isOk := by
      rw [hbuilt]
      rfl
    have hthat := hsame hnone fetched hfetched blockNumber hnumber hok sender
      (toOption_eq_some.mpr hsender) nonces hblock
    exact ⟨sender, nonces, hsender, hblock, hof.trans (congrArg some (hiff.mp hthat))⟩

/-- A returned transaction keeps its block when the chain grows. -/
theorem NonceAtBlock.grow {s : Builder} (h : NonceAtBlock fh s) (nonces' : Nonces) :
    NonceAtBlock fh { s with chain := s.chain ++ [nonces'] } := by
  intro request out hmem hnone
  obtain ⟨sender, nonces, hsender, hblock, hof⟩ := h request out hmem hnone
  exact ⟨sender, nonces, hsender, getElem?_grow hblock nonces', hof⟩

/-- One more result, of a call that returns. -/
theorem nonceAtBlock_returns_iff {s : Builder} (h : NonceAtBlock fh s) {id : ℕ}
    {request : BuildRequest} {result : Except String Snip36TransactionBuildOutput} :
    NonceAtBlock fh (s.returns id request result) ↔
      ∀ out, result = .ok out → request.nonce.toOption = none →
        out.AtBlock fh s.chain request := by
  constructor
  · rintro hafter out rfl hnone
    exact hafter request out (List.mem_append_right _ (List.mem_singleton_self _)) hnone
  · intro hnew request' out hmem hnone
    rcases List.mem_append.mp hmem with hmem | hmem
    · exact h request' out hmem hnone
    · obtain ⟨rfl, hresult⟩ := Prod.mk.inj (List.mem_singleton.mp hmem)
      exact hnew out hresult.symm hnone

/-- **A move keeps the nonces at their blocks exactly when the call that it answers has the nonce
of its block.** -/
theorem nonceAtBlock_buildStep_iff {s s' : Builder} {e : BuildEvent} (hinv : s.FromChain fh)
    (h : NonceAtBlock fh s) (hs : buildStep fh sc s e = some s') :
    NonceAtBlock fh s' ↔ StillCurrent fh sc s e := by
  rcases buildStep_cases hs with ⟨nonces, rfl, rfl⟩ | ⟨id, request, rfl, rfl⟩ |
    ⟨id, call, message, rfl, rfl⟩ | ⟨id, call, hanswered, rfl⟩
  · exact iff_of_true (h.grow nonces) fun _ hanswered => nomatch hanswered
  · exact iff_of_true h fun _ hanswered => nomatch hanswered
  · refine iff_of_true ?_ fun _ hanswered => nomatch hanswered
    exact (nonceAtBlock_returns_iff h).mpr fun _ hresult => nomatch hresult
  · have hcall := fromChain_answeredCall hinv hanswered
    have hcurrent : StillCurrent fh sc s e ↔ call.SameNonce fh sc s.chain := by
      rw [StillCurrent, hanswered]
      constructor
      · exact fun hall => hall (id, call) rfl
      · rintro hsame answered hanswered'
        obtain rfl := Option.some.inj hanswered'
        exact hsame
    rw [hcurrent, Builder.proceed]
    split
    next fetched blockNumber hfetched hnumber =>
      rw [nonceAtBlock_returns_iff h]
      constructor
      · intro hnew hnone fetched' hfetched' blockNumber' hnumber' hok
        obtain rfl := Option.some.inj (hfetched.symm.trans hfetched')
        obtain rfl := Option.some.inj (hnumber.symm.trans hnumber')
        obtain ⟨built, hbuilt⟩ := exists_eq_ok hok
        have hat := hnew ⟨built.txHash, built.transaction, blockNumber⟩ (by rw [hbuilt]; rfl) hnone
        exact (hcall.atBlock_iff hnone hfetched hnumber hbuilt).mp hat hnone fetched hfetched
          blockNumber hnumber hok
      · intro hsame out hout hnone
        obtain ⟨built, hbuilt, rfl⟩ := map_eq_ok.mp hout
        exact (hcall.atBlock_iff hnone hfetched hnumber hbuilt).mpr hsame
    next hnot =>
      refine iff_of_true h ?_
      intro _ fetched hfetched blockNumber hnumber
      exact absurd hnumber (hnot fetched blockNumber hfetched)

/-- **When the nonce of a built transaction is that of its block**: each answer that completes a
call finds the sender's nonce, in the block that is returned, as it was in the block that the nonce
was read from, or zero if it was not read. -/
theorem nonceAtBlock_iff {chain : List Nonces} {es : List BuildEvent} {s : Builder}
    (hrun : Run (buildStep fh sc) (.new chain) es s) :
    EveryState (buildStep fh sc) (.new chain) es (NonceAtBlock fh) ↔
      EveryStep (buildStep fh sc) (.new chain) es (StillCurrent fh sc) :=
  everyState_iff_everyStep (I := Builder.FromChain fh) (D := fun _ _ => True) hrun
    (Builder.fromChain_new chain) (fun _ _ h => nomatch h) (fun _ _ _ => fromChain_buildStep)
    (fun _ _ _ _ _ => trivial) fun _ _ _ hinv h _ hs => nonceAtBlock_buildStep_iff hinv h hs

/-- A chain with one block, in which the sample account has the nonce 7. -/
def sampleChain : List Nonces := [fun account => if account = 0x123 then 7 else 0]

/-- A call, and its two answers. -/
def answeredAtOnce : List BuildEvent := [
  .call 0 (.unsigned (sampleUnsigned .undefined)), .blockAnswer 0 (.ok ()), .nonceAnswer 0 true]

/-- A block in which the account is used, between the two answers. -/
def usedBetween : List BuildEvent := [
  .call 0 (.unsigned (sampleUnsigned .undefined)), .blockAnswer 0 (.ok ()),
  .block fun account => if account = 0x123 then 8 else 0, .nonceAnswer 0 true]

/-- A nonce that cannot be fetched. -/
def nonceFails : List BuildEvent := [
  .call 0 (.unsigned (sampleUnsigned .undefined)), .blockAnswer 0 (.ok ()), .nonceAnswer 0 false]

theorem nonceAtBlock_iff_sample :
    ∃ s, Run (buildStep sampleHex sampleCrypto) (.new sampleChain) answeredAtOnce s ∧
      s.returned.length = 1 ∧
      EveryState (buildStep sampleHex sampleCrypto) (.new sampleChain) answeredAtOnce
        (NonceAtBlock sampleHex) := by
  have hlen : (runEvents (buildStep sampleHex sampleCrypto) (.new sampleChain) answeredAtOnce).map
      (fun s => s.returned.length) = some 1 := by decide +kernel
  obtain ⟨s, hs, hreturned⟩ := Option.map_eq_some_iff.mp hlen
  have hrun := Run.of_runEvents hs
  refine ⟨s, hrun, hreturned, (nonceAtBlock_iff hrun).mpr ?_⟩
  have hreads : EveryStep (buildStep sampleHex sampleCrypto) (.new sampleChain) answeredAtOnce
      fun s e => (answeredCall sampleHex s e).all (fun answered => answered.2.readsAtBlock)
        = true :=
    everyStep_of_everyStep? (by decide +kernel)
  refine hreads.mono fun s e hall answered hanswered => ?_
  rw [Option.mem_def.mp hanswered] at hall
  exact BuildCall.sameNonce_of_readsAtBlock hall

/-- Who called and with which nonce, what was returned, and the nonce of the sample account in the
first block. -/
structure BuilderView where
  senders : List (String × Option String)
  results : List (Option (ℕ × Option Felt))
  nonceBefore : Option Felt
  deriving DecidableEq

/-- What there is to see of a state. -/
def Builder.view (s : Builder) : BuilderView where
  senders := s.returned.map fun (request, _) => (request.senderAddress, request.nonce.toOption)
  results := s.returned.map fun (_, result) =>
    result.toOption.map fun out => (out.blockNumber, nonceOf sampleHex out.transaction)
  nonceBefore := (s.chain[0]?).map (· 0x123)

/-- A transaction with the first block and another nonce than that of the block. -/
theorem not_nonceAtBlock {s : Builder} {nonce nonce' : Felt}
    (hview : s.view = ⟨[("0x123", none)], [some (0, some nonce)], some nonce'⟩)
    (hne : nonce ≠ nonce') : ¬ NonceAtBlock sampleHex s := by
  obtain ⟨hsenders, hresults, hblock⟩ := BuilderView.mk.inj hview
  intro h
  obtain ⟨⟨request, result⟩, hreturned, hpair⟩ := List.map_eq_singleton_iff.mp hsenders
  obtain ⟨hsender, hnone⟩ := Prod.mk.inj hpair
  rw [hreturned, List.map_singleton, List.singleton_inj] at hresults
  obtain ⟨out, hout, hpair⟩ := Option.map_eq_some_iff.mp hresults
  obtain ⟨hnumber, hnonce⟩ := Prod.mk.inj hpair
  have hmem : (request, .ok out) ∈ s.returned := by
    rw [hreturned, ← toOption_eq_some.mp hout]
    exact List.mem_singleton_self _
  obtain ⟨sender, nonces, hread, hat, hof⟩ := h request out hmem hnone
  obtain rfl : sender = 0x123 := by
    have hsample : sampleHex.fromHex "0x123" = .ok 0x123 := sampleHex.fromHex_fmtFelt 0x123
    rw [hsender, hsample] at hread
    exact (Except.ok.inj hread).symm
  rw [← hnumber, hat] at hblock
  rw [hnonce] at hof
  exact hne ((Option.some.inj hof).trans (Option.some.inj hblock))

/-- A call returns a transaction with the nonce 8 and the block 0, in which the nonce is 7; and one
that cannot fetch its nonce returns a transaction with the nonce 0. -/
theorem nonce_not_atBlock :
    (∃ s, Run (buildStep sampleHex sampleCrypto) (.new sampleChain) usedBetween s ∧
      ¬ NonceAtBlock sampleHex s) ∧
    ∃ s, Run (buildStep sampleHex sampleCrypto) (.new sampleChain) nonceFails s ∧
      ¬ NonceAtBlock sampleHex s := by
  constructor
  · have hend : (runEvents (buildStep sampleHex sampleCrypto) (.new sampleChain) usedBetween).map
        (·.view) = some ⟨[("0x123", none)], [some (0, some 8)], some 7⟩ := by decide +kernel
    obtain ⟨s, hs, hview⟩ := Option.map_eq_some_iff.mp hend
    exact ⟨s, Run.of_runEvents hs, not_nonceAtBlock hview (by decide)⟩
  · have hend : (runEvents (buildStep sampleHex sampleCrypto) (.new sampleChain) nonceFails).map
        (·.view) = some ⟨[("0x123", none)], [some (0, some 0)], some 7⟩ := by decide +kernel
    obtain ⟨s, hs, hview⟩ := Option.map_eq_some_iff.mp hend
    exact ⟨s, Run.of_runEvents hs, not_nonceAtBlock hview (by decide)⟩

end Nonce

end Snip36.Npm
