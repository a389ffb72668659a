import Snip36.CoinFlip.CommitReveal
import Snip36.Streams.Outcomes

/-!
# CoinFlip — one deployment

`deploy_coinflip` looks for a deployment, and when it finds none it declares and deploys the
contract, waits for the receipt and stores what it deployed.  In between it touches nothing that
requests share, so what it ends with is a function of what its commands print and of the receipt
(`deployOutcome`).

`deploysOnce_iff`: all deploys of a run are answered alike, and what is stored stays, exactly when
no deploy ends after another one has stored a different deployment.
-/

namespace Snip36.CoinFlip
open Support Signing Streams

/-! ### What the commands print -/

/-- The output of a command. -/
structure CommandOutput where
  success : Bool
  stdout : String
  stderr : String

/-- `format!("{}\n{}", stdout, stderr)`. -/
def CommandOutput.combined (output : CommandOutput) : String :=
  output.stdout ++ "\n" ++ output.stderr

/-- `[0-9a-fA-F]`. -/
def isHexChar (c : Char) : Bool := (hexDigit? c).isSome

/-- `extract_long_hex`: the first `0x[0-9a-fA-F]{50,}`. -/
def extractLongHex (text : String) : Option String :=
  text.toList.tails.findSome? fun
    | '0' :: 'x' :: cs =>
        let digits := cs.takeWhile isHexChar
        if 50 ≤ digits.length then some (String.ofList ('0' :: 'x' :: digits)) else none
    | _ => none

/-- What is left of a text after a key, in any case, with a space for an underscore or none. -/
def afterKey : List Char → List Char → Option (List Char)
  | [], cs => some cs
  | k :: ks, c :: cs =>
      if k.toLower = c.toLower ∨ (k = '_' ∧ c = ' ') then afterKey ks cs else none
  | _ :: _, [] => none

/-- `[:\s]`. -/
def isSeparator (c : Char) : Bool := c = ':' || c = ' ' || (9 ≤ c.toNat && c.toNat ≤ 13)

/-- `parse_hex`: the number after the key and its separators. -/
def parseHex (key text : String) : Option String :=
  text.toList.tails.findSome? fun cs => do
    let rest ← afterKey key.toList cs
    guard (rest.head?.any isSeparator)
    match rest.dropWhile isSeparator with
    | '0' :: x :: cs =>
        let digits := cs.takeWhile isHexChar
        if (x = 'x' ∨ x = 'X') ∧ digits ≠ [] then some (String.ofList ('0' :: x :: digits))
        else none
    | _ => none

/-- What the commands print, and the receipt of a transaction. -/
structure DeployReplies where
  declare : Except String CommandOutput
  /-- `sncast deploy`, of a class. -/
  deploy : String → Except String CommandOutput
  waitForTx : String → Except RpcError Json

/-- `deploy_coinflip`, after it found no deployment. -/
def deployOutcome (replies : DeployReplies) : Except ErrorResponse CoinFlipDeployment := do
  let internal (e : String) : ErrorResponse := ⟨.internalServerError, e⟩
  let declareOutput ← replies.declare.mapError internal
  let declareCombined := declareOutput.combined
  let classHash ← okOr (extractLongHex declareCombined)
    (internal ("CoinFlip declare failed: " ++ declareCombined))
  -- The outcome of the wait for the declaration is ignored.
  let deployOutput ← (replies.deploy classHash).mapError internal
  let deployCombined := deployOutput.combined
  failIf (deployOutput.success = false) (internal ("CoinFlip deploy failed: " ++ deployCombined))
  let contractAddress ← okOr (parseHex "contract_address" deployCombined)
    (internal ("No contract_address in deploy output: " ++ deployCombined))
  let txHash ← okOr (parseHex "transaction_hash" deployCombined)
    (internal ("No transaction_hash in deploy output: " ++ deployCombined))
  let receipt ← (replies.waitForTx txHash).mapError fun e =>
    (⟨.gatewayTimeout, e.toString⟩ : ErrorResponse)
  pure { contractAddress, classHash, deployBlock := (receiptBlockNumber receipt).getD 0 }

/-! ### Deploys in a run -/

section Runs

variable (fh : FeltHex) (pedersenHash : Felt → Felt → Felt)

/-- All deploys that are answered with a deployment are answered with one, and a deployment that is
stored at some point of the run is there at its end. -/
def DeploysOnce (es : List Event) (s : Server) : Prop :=
  (∀ rid rid' d d', (rid, .deployed d) ∈ s.answers → (rid', .deployed d') ∈ s.answers → d = d') ∧
  ∀ es₁ s₁ d, es₁ <+: es → Run (step fh pedersenHash) .new es₁ s₁ → s₁.coinflip = some d →
    s.coinflip = some d

/-- A deploy that ends well finds no deployment stored, or its own. -/
def StoresFirst (s : Server) : Event → Prop
  | .deployEnds _ (.ok d) => s.coinflip = none ∨ s.coinflip = some d
  | _ => True

instance : ∀ s e, Decidable (StoresFirst s e)
  | s, .deployEnds _ (.ok d) =>
      inferInstanceAs (Decidable (s.coinflip = none ∨ s.coinflip = some d))
  | _, .deployEnds _ (.error _) => .isTrue trivial
  | _, .commit .. | _, .play .. | _, .deploy _ | _, .blockNumber .. | _, .readDeployment _
  | _, .removeCommitment _ | _, .checkReveal _ | _, .checkDeployed _ | _, .cancel _ =>
      .isTrue trivial

/-- What is stored was answered, and when a deployment was answered one is stored. -/
structure Recorded (s : Server) : Prop where
  answered : ∀ d, s.coinflip = some d → ∃ rid, (rid, .deployed d) ∈ s.answers
  stored : ∀ rid d, (rid, .deployed d) ∈ s.answers → s.coinflip ≠ none

/-- The deployment of every answer is the one that is stored. -/
def OneDeployment (s : Server) : Prop :=
  ∀ rid d, (rid, .deployed d) ∈ s.answers → s.coinflip = some d

end Runs

variable {fh : FeltHex} {pedersenHash : Felt → Felt → Felt}

/-- The step stores nothing: it answers a deploy only with what is stored. -/
def KeepsDeployment (s s' : Server) : Prop :=
  s'.coinflip = s.coinflip ∧ s.answers <+: s'.answers ∧
    ∀ rid d, (rid, .deployed d) ∈ s'.answers → (rid, .deployed d) ∈ s.answers ∨ s.coinflip = some d

theorem keepsDeployment_of_eq {s s' : Server} (hcoinflip : s'.coinflip = s.coinflip)
    (hanswers : s'.answers = s.answers) : KeepsDeployment s s' :=
  ⟨hcoinflip, hanswers ▸ List.prefix_refl _, fun _ _ h => .inl (hanswers ▸ h)⟩

theorem keepsDeployment_answer {s s' : Server} {rid : ℕ} {a : Answer}
    (hcoinflip : s'.coinflip = s.coinflip) (hanswers : s'.answers = s.answers ++ [(rid, a)])
    (ha : ∀ d, a = .deployed d → s.coinflip = some d) : KeepsDeployment s s' := by
  refine ⟨hcoinflip, hanswers ▸ List.prefix_append _ _, fun rid' d h => ?_⟩
  rw [hanswers] at h
  rcases List.mem_append.mp h with h | h
  · exact .inl h
  · exact .inr (ha d (Prod.mk.inj (List.mem_singleton.mp h)).2.symm)

/-- **What a step does to the deployment**: only the end of a deploy stores one. -/
theorem step_deployment {s s' : Server} {e : Event} (hs : step fh pedersenHash s e = some s') :
    ((∀ rid d, e ≠ .deployEnds rid (.ok d)) ∧ KeepsDeployment s s') ∨
      ∃ rid d, e = .deployEnds rid (.ok d) ∧ s'.coinflip = some d ∧
        s'.answers = s.answers ++ [(rid, .deployed d)] := by
  cases step_moves hs with
  | commit h | play h | deploy h =>
      obtain ⟨-, rfl⟩ := arrive_eq_some h
      exact .inl ⟨by rintro _ _ ⟨⟩, keepsDeployment_of_eq rfl rfl⟩
  | deployed d _ => exact .inr ⟨_, d, rfl, rfl, rfl⟩
  | finds _ hd =>
      refine .inl ⟨by rintro _ _ ⟨⟩, keepsDeployment_answer rfl rfl fun d' h => ?_⟩
      obtain rfl := Answer.deployed.inj h
      exact hd
  | reads | takes | deploys | cancels =>
      exact .inl ⟨by rintro _ _ ⟨⟩, keepsDeployment_of_eq rfl rfl⟩
  | stores | noNumber | notDeployed | notCommitted | starts | refuses | deployFails =>
      exact .inl ⟨by rintro _ _ ⟨⟩, keepsDeployment_answer rfl rfl (by rintro _ ⟨⟩)⟩

theorem recorded_step {s s' : Server} {e : Event} (h : Recorded s)
    (hs : step fh pedersenHash s e = some s') : Recorded s' := by
  rcases step_deployment hs with ⟨-, hcoinflip, hanswers, hnew⟩ | ⟨rid, d, -, hcoinflip, hanswers⟩
  · constructor
    · intro d hd
      obtain ⟨rid, hrid⟩ := h.answered d (hcoinflip ▸ hd)
      exact ⟨rid, hanswers.subset hrid⟩
    · intro rid d hd
      rw [hcoinflip]
      rcases hnew rid d hd with hd | hd
      · exact h.stored rid d hd
      · exact hd ▸ Option.some_ne_none d
  · constructor
    · intro d' hd'
      obtain rfl := Option.some.inj (hcoinflip.symm.trans hd')
      exact ⟨rid, hanswers ▸ List.mem_append_right _ (List.mem_singleton.mpr rfl)⟩
    · intro _ _ _
      exact hcoinflip ▸ Option.some_ne_none d

/-- A step keeps the one deployment exactly when it stores none over another. -/
theorem oneDeployment_step_iff {s s' : Server} {e : Event} (hrecorded : Recorded s)
    (h : OneDeployment s) (hs : step fh pedersenHash s e = some s') :
    OneDeployment s' ↔ StoresFirst s e := by
  rcases step_deployment hs with
    ⟨he, hcoinflip, hanswers, hnew⟩ | ⟨rid, d, rfl, hcoinflip, hanswers⟩
  · have hfirst : StoresFirst s e := by
      rw [StoresFirst.eq_def]
      split
      · next rid d => exact absurd rfl (he rid d)
      · trivial
    refine iff_of_true (fun rid d hd => ?_) hfirst
    rw [hcoinflip]
    exact (hnew rid d hd).elim (h rid d) id
  · constructor
    · intro h'
      change s.coinflip = none ∨ s.coinflip = some d
      cases hd : s.coinflip with
      | none => exact .inl rfl
      | some d' =>
          obtain ⟨rid', hrid'⟩ := hrecorded.answered d' hd
          have hold := h' rid' d' (hanswers ▸ List.mem_append_left _ hrid')
          exact .inr (hold.symm.trans hcoinflip)
    · intro hfirst rid' d' hd'
      rw [hanswers] at hd'
      rcases List.mem_append.mp hd' with hd' | hd'
      · have hold := h rid' d' hd'
        rcases hfirst with hnone | hsome
        · exact absurd (hold.symm.trans hnone) (Option.some_ne_none d')
        · rw [hcoinflip, ← hsome, hold]
      · obtain ⟨-, heq⟩ := Prod.mk.inj (List.mem_singleton.mp hd')
        rw [hcoinflip, Answer.deployed.inj heq]

/-- Answers stay. -/
theorem answers_prefix {s s' : Server} {es : List Event}
    (h : Run (step fh pedersenHash) s es s') : s.answers <+: s'.answers := by
  refine h.invariant (P := fun s₁ => s.answers <+: s₁.answers) (List.prefix_refl _) ?_
  intro s₁ e s₂ hpre hs
  rcases step_deployment hs with ⟨-, -, hanswers, -⟩ | ⟨_, _, -, -, hanswers⟩
  · exact hpre.trans hanswers
  · exact hpre.trans (hanswers ▸ List.prefix_append _ _)

theorem recorded_new : Recorded .new := ⟨fun _ h => (nomatch h), fun _ _ h => (nomatch h)⟩

/-- A run deploys once exactly when there is one deployment in all its states. -/
theorem deploysOnce_iff_everyState {s : Server} {es : List Event}
    (hrun : Run (step fh pedersenHash) .new es s) :
    DeploysOnce fh pedersenHash es s ↔
      EveryState (step fh pedersenHash) .new es OneDeployment := by
  have hrest {es₁ : List Event} {s₁ : Server} (hes₁ : es₁ <+: es)
      (hrun₁ : Run (step fh pedersenHash) .new es₁ s₁) : s₁.answers <+: s.answers := by
    obtain ⟨es₂, rfl⟩ := hes₁
    obtain ⟨s₁', hrun₁', hrun₂⟩ := hrun.split
    obtain rfl := hrun₁.unique hrun₁'
    exact answers_prefix hrun₂
  have hrecorded {es₁ : List Event} {s₁ : Server}
      (hrun₁ : Run (step fh pedersenHash) .new es₁ s₁) : Recorded s₁ :=
    hrun₁.invariant recorded_new fun _ _ _ => recorded_step
  constructor
  · rintro ⟨hsame, -⟩ es₁ s₁ hes₁ hrun₁ rid d hd
    obtain ⟨d₁, hd₁⟩ := Option.ne_none_iff_exists'.mp ((hrecorded hrun₁).stored rid d hd)
    obtain ⟨rid₁, hrid₁⟩ := (hrecorded hrun₁).answered d₁ hd₁
    have hanswers := (hrest hes₁ hrun₁).subset
    rw [hsame rid rid₁ d d₁ (hanswers hd) (hanswers hrid₁), hd₁]
  · intro h
    have hlast := h.last hrun
    constructor
    · intro rid rid' d d' hd hd'
      exact Option.some.inj ((hlast rid d hd).symm.trans (hlast rid' d' hd'))
    · intro es₁ s₁ d hes₁ hrun₁ hd
      obtain ⟨rid, hrid⟩ := (hrecorded hrun₁).answered d hd
      exact hlast rid d ((hrest hes₁ hrun₁).subset hrid)

/-- **When deploying happens once**: each deploy that ends well finds no deployment stored, or its
own. -/
theorem deploysOnce_iff {s : Server} {es : List Event}
    (hrun : Run (step fh pedersenHash) .new es s) :
    DeploysOnce fh pedersenHash es s ↔
      EveryStep (step fh pedersenHash) .new es StoresFirst := by
  rw [deploysOnce_iff_everyState hrun]
  exact everyState_iff_everyStep (I := Recorded) (D := fun _ _ => True) hrun recorded_new
    (fun _ _ h => (nomatch h)) (fun _ _ _ => recorded_step) (fun _ _ _ _ _ => trivial)
    fun _ _ _ hrecorded hone _ hs => oneDeployment_step_iff hrecorded hone hs

/-- What the commands print for the sample class, and for a contract of it. -/
def sampleReplies (contractAddress : String) : DeployReplies where
  declare := .ok ⟨true, "class_hash: 0x0123456789abcdef0123456789abcdef0123456789abcdef0123456789",
    ""⟩
  deploy _ := .ok ⟨true, "contract_address: " ++ contractAddress ++ "\ntransaction_hash: 0x9", ""⟩
  waitForTx _ := .ok (.obj [("block_number", .num 3)])

/-- The deployment of a contract of the sample class. -/
def sampleDeployment (contractAddress : String) : CoinFlipDeployment :=
  ⟨contractAddress, "0x0123456789abcdef0123456789abcdef0123456789abcdef0123456789", 3⟩

/-- A deploy, and one that finds its deployment. -/
def secondFinds : List Event := [
  .deploy 0, .checkDeployed 0, .deployEnds 0 (deployOutcome (sampleReplies "0x5")),
  .deploy 1, .checkDeployed 1]

/-- Two deploys that both find none. -/
def bothFindNone : List Event := [
  .deploy 0, .deploy 1, .checkDeployed 0, .checkDeployed 1,
  .deployEnds 0 (deployOutcome (sampleReplies "0x5")),
  .deployEnds 1 (deployOutcome (sampleReplies "0x6"))]

theorem deploysOnce_iff_sample :
    ∃ s, Run (step sampleHex samplePedersen) .new secondFinds s ∧ s.answers.length = 2 ∧
      DeploysOnce sampleHex samplePedersen secondFinds s := by
  have hlen : (runEvents (step sampleHex samplePedersen) .new secondFinds).map
      (fun s => s.answers.length) = some 2 := by decide +kernel
  obtain ⟨s, hs, hanswers⟩ := Option.map_eq_some_iff.mp hlen
  have hrun := Run.of_runEvents hs
  refine ⟨s, hrun, hanswers, (deploysOnce_iff hrun).mpr ?_⟩
  exact everyStep_of_everyStep? (by decide +kernel)

/-- Two deploys at once end with two deployments, the second in the place of the first. -/
theorem deploys_twice :
    ∃ s, Run (step sampleHex samplePedersen) .new bothFindNone s ∧
      (0, .deployed (sampleDeployment "0x5")) ∈ s.answers ∧
      (1, .deployed (sampleDeployment "0x6")) ∈ s.answers ∧
      s.coinflip = some (sampleDeployment "0x6") ∧
      ¬ DeploysOnce sampleHex samplePedersen bothFindNone s := by
  have hend : (runEvents (step sampleHex samplePedersen) .new bothFindNone).map
      (fun s => (s.answers, s.coinflip)) = some ([(0, .deployed (sampleDeployment "0x5")),
        (1, .deployed (sampleDeployment "0x6"))], some (sampleDeployment "0x6")) := by
    decide +kernel
  obtain ⟨s, hs, hstate⟩ := Option.map_eq_some_iff.mp hend
  obtain ⟨hanswers, hcoinflip⟩ := Prod.mk.inj hstate
  have hfirst : (0, .deployed (sampleDeployment "0x5")) ∈ s.answers := hanswers ▸ by simp
  have hsecond : (1, .deployed (sampleDeployment "0x6")) ∈ s.answers := hanswers ▸ by simp
  refine ⟨s, Run.of_runEvents hs, hfirst, hsecond, hcoinflip, fun h => ?_⟩
  exact absurd (h.1 _ _ _ _ hfirst hsecond) (by decide)

end Snip36.CoinFlip
