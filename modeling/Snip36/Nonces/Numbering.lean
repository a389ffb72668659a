import Snip36.CoinFlip.CommitReveal
import Snip36.Nonces.Server
import Snip36.Playground.Server

/-!
# Nonces — which ones are used twice

Every run signs with the number of the account's transactions in the state from which it has read
its nonce.  Two transactions have one nonce exactly when these states count the same number: two
games on one seed block do, whatever else happens (`sameBlockGames_not_neverTwice`).

`noncesNumbered` says this of every run of the server, and what the nonces still promise: none is
that of a transaction which is included in the state that was read, and of the transactions with
one nonce at most one is ever included.
-/

namespace Snip36.Nonces
open Support Signing CoinFlip Streams Playground

/-! ### Reads -/

section Reads

variable {sc : StarknetCrypto}

theorem getNonceAtBlock_eq_some {state : List (Entry sc)} {nonce : BitVec 64}
    (h : getNonceAtBlock state = some nonce) : nonce.toNat = state.length := by
  rw [getNonceAtBlock] at h
  split at h
  next hlt =>
    obtain rfl := Option.some.inj h
    rw [BitVec.toNat_ofNat, Nat.mod_eq_of_lt hlt]
  next => nomatch h

theorem BlockId.state?_prefix {blockId : BlockId} {account : Account sc} {state : List (Entry sc)}
    (h : blockId.state? account = some state) : state <+: account.all := by
  cases blockId with
  | blockNumber number => exact Ledger.upTo?_prefix h
  | preConfirmed =>
      obtain rfl := Option.some.inj h
      exact List.prefix_refl _
  | latest =>
      obtain rfl := Option.some.inj h
      exact account.closed_prefix

namespace NonceRead

variable (read : NonceRead sc)

theorem nonce_toNat : read.nonce.toNat = read.state.length :=
  getNonceAtBlock_eq_some read.nonce_eq

theorem state_prefix : read.state <+: read.account.all :=
  BlockId.state?_prefix read.state_eq

/-- A nonce of 64 bits is a felt. -/
theorem ofNat_nonce : (Felt.ofNat read.nonce.toNat).val = read.state.length := by
  have hlt : read.nonce.toNat < feltPrime := by
    have := read.nonce.isLt
    norm_num [feltPrime]
    omega
  rw [Felt.val_ofNat hlt, nonce_toNat]

end NonceRead

theorem readNonce_eq_some {account : Account sc} {blockId : BlockId} {read : NonceRead sc}
    (h : readNonce account blockId = some read) :
    read.account = account ∧ read.blockId = blockId := by
  rw [readNonce] at h
  split at h
  next =>
    split at h
    next =>
      obtain rfl := Option.some.inj h
      exact ⟨rfl, rfl⟩
    next => nomatch h
  next => nomatch h

end Reads

/-! ### What a step does -/

/-- The address of the config. -/
def SignsFor (env : Env) (senderAddress : Felt) : Prop :=
  feltFromHex env.fh env.config.accountAddress = .ok senderAddress

/-- The parameters have the account's address, and the nonce that they are given. -/
def TakesNonce (env : Env) (params : Felt → SubmitParams) : Prop :=
  ∀ nonce, (params nonce).nonce = nonce ∧ SignsFor env (params nonce).senderAddress

/-- The `block_id` with which a run reads the nonce: its reference block, or the newest states. -/
def ReadsAt (referenceBlock : Option (BitVec 64)) (blockId : BlockId) : Prop :=
  match referenceBlock with
  | some number => blockId = .blockNumber number
  | none => blockId = .preConfirmed ∨ blockId = .latest

/-- A run signs for the account, with a nonce that was read on this chain. -/
def Phase.Sound (env : Env) (account : Account env.sc) : Phase env.sc → Prop
  | .constructing c => SignsFor env c.senderAddress
  | .proving c read =>
      SignsFor env c.senderAddress ∧ read.account.Grows account ∧
        ReadsAt (some c.referenceBlock) read.blockId
  | .reading params => TakesNonce env params
  | .readingLatest params => TakesNonce env params
  | .signing params read =>
      TakesNonce env params ∧ read.account.Grows account ∧ ReadsAt none read.blockId
  | .submitting _ => True

/-- A transaction is signed for the account, with the nonce that was read on this chain. -/
structure Production.Sound (env : Env) (account : Account env.sc) (p : Production env.sc) :
    Prop where
  sender : SignsFor env p.tx.params.senderAddress
  nonce : p.tx.params.nonce = Felt.ofNat p.read.nonce.toNat
  readsAt : ReadsAt p.referenceBlock p.read.blockId
  readBefore : p.read.account.Grows p.account
  grows : p.account.Grows account

/-- What a step does: at most one run goes on, or the chain grows. -/
inductive Effect (env : Env) (s : Server env.sc) : Server env.sc → Prop where
  | stays : Effect env s s
  | enters (rid : ℕ) {phase : Phase env.sc} (h : phase.Sound env s.account) :
      Effect env s (s.enter rid phase)
  | leaves (rid : ℕ) : Effect env s (s.leave rid)
  | signs (rid : ℕ) {p : Production env.sc} (h : p.Sound env s.account) :
      Effect env s { s.enter rid (.submitting p.tx) with produced := s.produced ++ [p] }
  | network {account : Account env.sc} (mempool : List (ProofTx env.sc))
      (h : s.account.Grows account) :
      Effect env s { s with account := account, mempool := mempool }

/-- The server, with the runs and the transactions that it has signed. -/
structure Sound (env : Env) (s : Server env.sc) : Prop where
  runs : ∀ rid phase, s.runs rid = some phase → phase.Sound env s.account
  produced : ∀ p ∈ s.produced, p.Sound env s.account

variable {env : Env}

theorem signsFor_of_construct {calldataFelts : Except String (List Felt)} {invalidSender : String}
    {resourceBounds : ResourceBounds} {referenceBlock : BitVec 64} {c : Construction}
    (h : construct env calldataFelts invalidSender resourceBounds referenceBlock = .ok c) :
    SignsFor env c.senderAddress := by
  obtain ⟨calldata, -, h⟩ := bind_eq_ok.mp h
  obtain ⟨senderAddress, hsender, h⟩ := bind_eq_ok.mp h
  obtain ⟨privateKey, -, h⟩ := bind_eq_ok.mp h
  obtain ⟨chainId, -, h⟩ := bind_eq_ok.mp h
  obtain rfl := pure_eq_ok.mp h
  exact mapError_eq_ok.mp hsender

theorem takesNonce_of_submitParams {contractAddress proof proofFactsJson : String}
    {params : Felt → SubmitParams}
    (h : submitParams env contractAddress proof proofFactsJson = .ok params) :
    TakesNonce env params := by
  obtain ⟨proofFactsHex, -, h⟩ := bind_eq_ok.mp h
  obtain ⟨proofFacts, -, h⟩ := bind_eq_ok.mp h
  obtain ⟨contract, -, h⟩ := bind_eq_ok.mp h
  obtain ⟨selector, -, h⟩ := bind_eq_ok.mp h
  obtain ⟨senderAddress, hsender, h⟩ := bind_eq_ok.mp h
  obtain ⟨privateKey, -, h⟩ := bind_eq_ok.mp h
  obtain ⟨chainId, -, h⟩ := bind_eq_ok.mp h
  obtain rfl := pure_eq_ok.mp h
  exact fun nonce => ⟨rfl, mapError_eq_ok.mp hsender⟩

/-- A run that starts is sound when its phase is. -/
theorem effect_of_start {κ : Type} {s s' : Server env.sc} {rid : ℕ}
    {phase : Except κ (Phase env.sc)} (h : s.start rid phase = some s')
    (hsound : ∀ p, phase = .ok p → p.Sound env s.account) : Effect env s s' := by
  unfold Server.start at h
  split at h
  next =>
    cases phase with
    | ok phase =>
        obtain rfl := Option.some.inj h
        exact .enters rid (hsound phase rfl)
    | error e =>
        obtain rfl := Option.some.inj h
        exact .stays
  next => nomatch h

/-- A run that has read its nonce signs with it, or ends. -/
theorem effect_signAndSubmit {s : Server env.sc} (rid : ℕ) {params : SubmitParams}
    {referenceBlock : Option (BitVec 64)} {read : NonceRead env.sc}
    (hsender : SignsFor env params.senderAddress)
    (hnonce : params.nonce = Felt.ofNat read.nonce.toNat) (hread : read.account.Grows s.account)
    (hblock : ReadsAt referenceBlock read.blockId) :
    Effect env s (s.signAndSubmit rid params referenceBlock read) := by
  rw [Server.signAndSubmit]
  split
  next =>
    refine .signs rid (p := ⟨_, referenceBlock, read, s.account, s.mempool⟩) ?_
    exact ⟨hsender, hnonce, hblock, hread, .refl _⟩
  next => exact .leaves rid

theorem effect_of_map_constructing {κ : Type} {s s' : Server env.sc} {rid : ℕ}
    {c? : Except κ Construction} (hc : ∀ c, c? = .ok c → SignsFor env c.senderAddress)
    (h : s.start rid (c?.map .constructing) = some s') : Effect env s s' := by
  refine effect_of_start h fun phase hphase => ?_
  cases c? with
  | ok c =>
      obtain rfl := Except.ok.inj hphase
      exact hc c rfl
  | error e => nomatch hphase

/-- **What a step does.** -/
theorem step_effect {s s' : Server env.sc} {e : Event} (hsound : Sound env s)
    (h : step env s e = some s') : Effect env s s' := by
  cases e with
  | playCoinflip rid game =>
      exact effect_of_map_constructing (fun c hc => signsFor_of_construct hc) h
  | proveBlock rid job =>
      exact effect_of_map_constructing (fun c hc => signsFor_of_construct hc) h
  | submitProof rid contractAddress proof proofFactsJson =>
      refine effect_of_start h fun phase hphase => ?_
      cases hparams : submitParams env contractAddress proof proofFactsJson with
      | ok params =>
          rw [hparams] at hphase
          obtain rfl := Except.ok.inj hphase
          exact takesNonce_of_submitParams hparams
      | error e =>
          rw [hparams] at hphase
          nomatch hphase
  | nonceRead rid =>
      dsimp only [step] at h
      split at h
      next c hrun =>
        -- The node counts on the chain as it is now, whatever block it is asked for.
        obtain ⟨read, hread, h⟩ := Option.bind_eq_some_iff.mp h
        obtain ⟨haccount, hblock⟩ := readNonce_eq_some hread
        split at h
        next =>
          obtain rfl := Option.some.inj h
          exact .enters rid ⟨hsound.runs rid _ hrun, haccount ▸ .refl _, hblock⟩
        next =>
          obtain rfl := Option.some.inj h
          exact .leaves rid
      next params hrun =>
        obtain ⟨read, hread, h⟩ := Option.bind_eq_some_iff.mp h
        obtain ⟨haccount, hblock⟩ := readNonce_eq_some hread
        obtain rfl := Option.some.inj h
        exact .enters rid ⟨hsound.runs rid _ hrun, haccount ▸ .refl _, .inl hblock⟩
      next params hrun =>
        obtain ⟨read, hread, h⟩ := Option.bind_eq_some_iff.mp h
        obtain ⟨haccount, hblock⟩ := readNonce_eq_some hread
        obtain rfl := Option.some.inj h
        exact .enters rid ⟨hsound.runs rid _ hrun, haccount ▸ .refl _, .inr hblock⟩
      next => nomatch h
  | nonceFailed rid =>
      dsimp only [step] at h
      split at h
      next =>
        obtain rfl := Option.some.inj h
        exact .leaves rid
      next params hrun =>
        obtain rfl := Option.some.inj h
        have hparams : TakesNonce env params := hsound.runs rid _ hrun
        exact .enters rid hparams
      next =>
        obtain rfl := Option.some.inj h
        exact .leaves rid
      next => nomatch h
  | proved rid proofBase64 proofFacts =>
      dsimp only [step] at h
      split at h
      next c read hrun =>
        obtain rfl := Option.some.inj h
        obtain ⟨hsender, hgrows, hblock⟩ := hsound.runs rid _ hrun
        exact effect_signAndSubmit rid hsender rfl hgrows hblock
      next => nomatch h
  | signed rid =>
      dsimp only [step] at h
      split at h
      next params read hrun =>
        obtain rfl := Option.some.inj h
        obtain ⟨hparams, hgrows, hblock⟩ := hsound.runs rid _ hrun
        obtain ⟨hnonce, hsender⟩ := hparams (Felt.ofNat read.nonce.toNat)
        exact effect_signAndSubmit rid hsender hnonce hgrows hblock
      next => nomatch h
  | received rid =>
      dsimp only [step] at h
      split at h
      next =>
        obtain rfl := Option.some.inj h
        exact .network _ (.refl _)
      next => nomatch h
  | ended rid =>
      dsimp only [step] at h
      split at h
      next =>
        obtain rfl := Option.some.inj h
        exact .leaves rid
      next => nomatch h
  | included i =>
      dsimp only [step] at h
      split at h
      next =>
        split at h
        next hfits =>
          obtain rfl := Option.some.inj h
          exact .network _ (Ledger.grows_append hfits)
        next => nomatch h
      next => nomatch h
  | dropped i =>
      obtain rfl := Option.some.inj h
      exact .network _ (.refl _)
  | otherIncluded =>
      dsimp only [step] at h
      split at h
      next hfits =>
        obtain rfl := Option.some.inj h
        exact .network _ (Ledger.grows_append hfits)
      next => nomatch h
  | blockClosed =>
      obtain rfl := Option.some.inj h
      exact .network _ (Ledger.grows_closeBlock _)

/-! ### What holds in every run -/

theorem Phase.Sound.mono {account account' : Account env.sc} {phase : Phase env.sc}
    (h : phase.Sound env account) (hgrows : account.Grows account') : phase.Sound env account' := by
  cases phase with
  | constructing c => exact h
  | proving c read => exact ⟨h.1, h.2.1.trans hgrows, h.2.2⟩
  | reading params => exact h
  | readingLatest params => exact h
  | signing params read => exact ⟨h.1, h.2.1.trans hgrows, h.2.2⟩
  | submitting tx => trivial

theorem Production.Sound.mono {account account' : Account env.sc} {p : Production env.sc}
    (h : p.Sound env account) (hgrows : account.Grows account') : p.Sound env account' :=
  { h with grows := h.grows.trans hgrows }

theorem sound_new (account : Account env.sc) : Sound env (.new account) where
  runs _ _ hrun := nomatch hrun
  produced _ hp := nomatch hp

/-- A run that goes to a sound phase. -/
theorem Sound.enter {s : Server env.sc} (h : Sound env s) {rid : ℕ} {phase : Phase env.sc}
    (hphase : phase.Sound env s.account) : Sound env (s.enter rid phase) where
  runs := forall_update_some h.runs hphase
  produced := h.produced

theorem Sound.leave {s : Server env.sc} (h : Sound env s) (rid : ℕ) : Sound env (s.leave rid) where
  runs := forall_update_none h.runs
  produced := h.produced

theorem Effect.sound {s s' : Server env.sc} (h : Effect env s s') (hsound : Sound env s) :
    Sound env s' := by
  cases h with
  | stays => exact hsound
  | enters rid hphase => exact hsound.enter hphase
  | leaves rid => exact hsound.leave rid
  | @signs rid p hp =>
      have hphase : (Phase.submitting p.tx).Sound env s.account := trivial
      refine ⟨(hsound.enter hphase).runs, fun q hq => ?_⟩
      rcases List.mem_append.mp hq with hq | hq
      · exact hsound.produced q hq
      · obtain rfl := List.mem_singleton.mp hq
        exact hp
  | network mempool hgrows =>
      exact ⟨fun rid phase hrun => (hsound.runs rid phase hrun).mono hgrows,
        fun p hp => (hsound.produced p hp).mono hgrows⟩

/-! ### The nonces -/

section Nonces

variable {s : Server env.sc} {p q : Production env.sc}

/-- A transaction is signed with the number of transactions in the state that was read. -/
theorem Production.Sound.nonce_val {account : Account env.sc} (h : p.Sound env account) :
    p.tx.params.nonce.val = p.read.state.length := by
  rw [h.nonce, p.read.ofNat_nonce]

/-- Two transactions have one nonce exactly when the states that were read count the same. -/
theorem Sound.nonce_eq_iff (h : Sound env s) (hp : p ∈ s.produced) (hq : q ∈ s.produced) :
    p.tx.params.nonce = q.tx.params.nonce ↔ p.read.state.length = q.read.state.length := by
  rw [Fin.ext_iff, (h.produced p hp).nonce_val, (h.produced q hq).nonce_val]

/-- Runs with one reference block sign one nonce. -/
theorem Sound.nonce_eq_of_block (h : Sound env s) (hp : p ∈ s.produced) (hq : q ∈ s.produced)
    {number : BitVec 64} (hpb : p.referenceBlock = some number)
    (hqb : q.referenceBlock = some number) : p.tx.params.nonce = q.tx.params.nonce := by
  -- A closed block is the same in the chain of either read and in the present one.
  have state_eq : ∀ r ∈ s.produced, r.referenceBlock = some number →
      s.account.upTo? number.toNat = some r.read.state := by
    intro r hr hrb
    have hblock := (h.produced r hr).readsAt
    rw [hrb] at hblock
    have hread := r.read.state_eq
    rw [hblock] at hread
    have hgrows := (h.produced r hr).readBefore.trans (h.produced r hr).grows
    exact hgrows.upTo? hread
  have hstate := (state_eq p hp hpb).symm.trans (state_eq q hq hqb)
  rw [h.nonce_eq_iff hp hq, Option.some.inj hstate]

/-- No transaction has the nonce of one that is included in the state that was read. -/
theorem Production.Sound.nonce_ne_of_mem {account : Account env.sc} (h : p.Sound env account)
    {tx : ProofTx env.sc} (htx : .own tx ∈ p.read.state) :
    tx.params.nonce ≠ p.tx.params.nonce := by
  intro heq
  have hlt := Ledger.number_lt_of_mem p.read.state_prefix htx rfl
  rw [heq, h.nonce_val] at hlt
  exact lt_irrefl _ hlt

/-- Of the transactions with one nonce, one is included. -/
theorem eq_of_nonce_eq {account : Account env.sc} {tx tx' : ProofTx env.sc}
    (h : .own tx ∈ account.all) (h' : .own tx' ∈ account.all)
    (hnonce : tx.params.nonce = tx'.params.nonce) : tx = tx' := by
  have hnumber : Entry.nonce? (.own tx) = some tx'.params.nonce.val := by
    rw [Entry.nonce?, hnonce]
  exact Entry.own.inj (Ledger.eq_of_number_eq h h' hnumber rfl)

end Nonces

/-- What the nonces of the signed transactions promise. -/
structure Numbered (env : Env) (s : Server env.sc) : Prop where
  sender : ∀ p ∈ s.produced, SignsFor env p.tx.params.senderAddress
  readsAt : ∀ p ∈ s.produced, ReadsAt p.referenceBlock p.read.blockId
  read : ∀ p ∈ s.produced, p.read.blockId.state? p.read.account = some p.read.state ∧
    p.read.account.Grows p.account ∧ p.account.Grows s.account
  nonce : ∀ p ∈ s.produced, p.tx.params.nonce.val = p.read.state.length
  sameNonce_iff : ∀ p ∈ s.produced, ∀ q ∈ s.produced,
    p.tx.params.nonce = q.tx.params.nonce ↔ p.read.state.length = q.read.state.length
  sameBlock : ∀ p ∈ s.produced, ∀ q ∈ s.produced, ∀ number,
    p.referenceBlock = some number → q.referenceBlock = some number →
      p.tx.params.nonce = q.tx.params.nonce
  notRead : ∀ p ∈ s.produced, ∀ tx, .own tx ∈ p.read.state →
    tx.params.nonce ≠ p.tx.params.nonce
  includedOnce : ∀ tx tx', .own tx ∈ s.account.all → .own tx' ∈ s.account.all →
    tx.params.nonce = tx'.params.nonce → tx = tx'

theorem Sound.numbered {s : Server env.sc} (h : Sound env s) : Numbered env s where
  sender p hp := (h.produced p hp).sender
  readsAt p hp := (h.produced p hp).readsAt
  read p hp := ⟨p.read.state_eq, (h.produced p hp).readBefore, (h.produced p hp).grows⟩
  nonce p hp := (h.produced p hp).nonce_val
  sameNonce_iff _ hp _ hq := h.nonce_eq_iff hp hq
  sameBlock _ hp _ hq _ hpb hqb := h.nonce_eq_of_block hp hq hpb hqb
  notRead p hp _ htx := (h.produced p hp).nonce_ne_of_mem htx
  includedOnce _ _ htx htx' hnonce := eq_of_nonce_eq htx htx' hnonce

theorem sound_of_run {account : Account env.sc} {es : List Event} {s : Server env.sc}
    (h : Run (step env) (.new account) es s) : Sound env s :=
  h.invariant (sound_new account) fun _ _ _ hsound hs => (step_effect hsound hs).sound hsound

/-- **In every run, a transaction is signed with the number of the account's transactions in the
state that was read**; so two have one nonce exactly when their states count the same, as on one
reference block they do, none has the nonce of one in its state, and of those with one nonce at
most one is included. -/
theorem noncesNumbered (env : Env) (account : Account env.sc) (es : List Event) :
    EveryState (step env) (.new account) es (Numbered env) :=
  fun _ _ _ hrun => (sound_of_run hrun).numbered

/-- A game on block 0. -/
def gameOf (sessionId player : String) : Game where
  sessionId := sessionId
  deployment := ⟨"0x5", "0x6", 0⟩
  player := player
  bet := 1
  seedBlock := 0

/-- Two games on one seed block; the second is signed when the first is pending. -/
def sameBlockGames : List Event := [
  .otherIncluded,
  .blockClosed,
  .playCoinflip 0 (gameOf "a" "0x1"),
  .nonceRead 0,
  .playCoinflip 1 (gameOf "b" "0x2"),
  .nonceRead 1,
  .proved 0 "AQID" [1],
  .received 0,
  .proved 1 "BAUG" [2]]

/-- A signed transaction has the sender and the nonce of a pending one, and another hash. -/
def Production.clashes {sc : StarknetCrypto} (p : Production sc) : Bool :=
  p.mempool.any fun tx => tx.params.senderAddress = p.tx.params.senderAddress ∧
    tx.params.nonce = p.tx.params.nonce ∧ tx.txHash ≠ p.tx.txHash

/-- Two accepted games of which the second is signed with the nonce of the first. -/
theorem sameBlockGames_not_neverTwice :
    (∀ sessionId, ∀ player ∈ ["0x1", "0x2"],
      reveal sampleHex samplePedersen sessionId ⟨"0x5", "0x6", 0⟩
        ⟨commitmentText samplePedersen 1 7, 0, player⟩ ⟨player, 1, "0x7"⟩
          = .ok (gameOf sessionId player)) ∧
    ¬ EveryState (step sampleEnv) (.new .new) sameBlockGames NeverTwice := by
  constructor
  · intro sessionId player _
    have hnonce : sampleHex.fromHex "0x7" = .ok 7 := sampleHex.fromHex_fmtFelt 7
    rw [reveal_eq_ok]
    dsimp only
    exact ⟨rfl, ⟨7, hnonce, rfl⟩, rfl⟩
  · intro h
    have hrun : (runEvents (step sampleEnv) (.new .new) sameBlockGames).map
        (fun s => s.produced.any Production.clashes) = some true := by
      decide +kernel
    obtain ⟨s, hs, hclash⟩ := Option.map_eq_some_iff.mp hrun
    obtain ⟨p, hp, hany⟩ := List.any_eq_true.mp hclash
    obtain ⟨tx, htx, heq⟩ := List.any_eq_true.mp hany
    obtain ⟨hsender, hnonce, hhash⟩ := of_decide_eq_true heq
    exact hhash ((h.last (Run.of_runEvents hs)) p hp tx (.inl htx) hsender hnonce)

end Snip36.Nonces
