import Snip36.Playground.Server
import Snip36.Support.OneShot

/-!
# Playground — what a move does

`Move env s e s'` lists what a move can do: to the sessions, the files, the scripts and the
requests, with what the move has read.  What is said to the client is left open.

* `step_move`: every step is such a move.
-/

namespace Snip36.Playground
open Support Signing CoinFlip Streams

variable {env : Env}

/-- The first await of a request that comes in, with what its handler has read. -/
inductive Arrival (env : Env) (s : Server) : Event → ℕ → Request → Prop where
  | deployAccount {rid : ℕ} {sessionId : String} :
      Arrival env s (.deployAccount rid sessionId) rid (.deployingAccount sessionId)
  | deployCounter {rid : ℕ} {sessionId : String} :
      Arrival env s (.deployCounter rid sessionId) rid (.deployingCounter sessionId)
  | invoke {rid : ℕ} {req : InvokeRequest} {contractAddress : String}
      (hcontract : (s.sessions req.sessionId).contractAddress = some contractAddress) :
      Arrival env s (.invoke rid req) rid (.invoking req contractAddress)
  | prove {rid : ℕ} {sessionId txHash : String}
      (htx : (s.sessions sessionId).lastInvokeTx = some txHash) :
      Arrival env s (.prove rid sessionId) rid (.proving sessionId txHash .started)
  | proveBlock {rid : ℕ} {sessionId : String} {params : ProveBlockQuery} {job : ProveJob}
      (hjob : Streams.proveBlock (s.sessions sessionId).referenced sessionId params = .ok job) :
      Arrival env s (.proveBlock rid sessionId params) rid (.provingBlock job .proving)
  | submit {rid : ℕ} {sessionId proofFile contractAddress : String}
      (hproof : (s.sessions sessionId).proofFile = some proofFile)
      (hcontract : (s.sessions sessionId).contractAddress = some contractAddress) :
      Arrival env s (.submit rid sessionId) rid (.readingProof sessionId proofFile contractAddress)

/-- What a move does. -/
inductive Move (env : Env) (s : Server) : Event → Server → Prop where
  | arrival {e : Event} {rid : ℕ} {r : Request} {said : List (ℕ × Said)}
      (h : Arrival env s e rid r) (hrid : rid = s.nextId) :
      Move env s e { s with
        nextId := rid + 1
        requests := Function.update s.requests rid (some r)
        said }
  | rejected {e : Event} {rid : ℕ} {said : List (ℕ × Said)} (hrid : rid = s.nextId) :
      Move env s e { s with nextId := rid + 1, said }
  | ends {e : Event} {rid : ℕ} {r : Request} {said : List (ℕ × Said)}
      (hreq : s.requests rid = some r)
      (hexit : ∀ sessionId txHash, r = .proving sessionId txHash .running →
        ∃ script success, s.scripts rid = some script ∧ script.exit = some success) :
      Move env s e { s with requests := Function.update s.requests rid none, said }
  | accountDeployed {rid : ℕ} {sessionId : String} {d : AccountDeployment}
      {said : List (ℕ × Said)} (hreq : s.requests rid = some (.deployingAccount sessionId)) :
      Move env s (.accountDeployed rid (.ok d)) { s with
        sessions := Function.update s.sessions sessionId { s.sessions sessionId with
          accountAddress := some d.accountAddress
          accountDeployed := true }
        requests := Function.update s.requests rid none
        said }
  | counterDeployed {rid : ℕ} {sessionId : String} {d : CounterDeployment}
      {said : List (ℕ × Said)} (hreq : s.requests rid = some (.deployingCounter sessionId)) :
      Move env s (.counterDeployed rid (.ok d)) { s with
        sessions := Function.update s.sessions sessionId { s.sessions sessionId with
          contractAddress := some d.contractAddress
          classHash := some d.classHash
          deployBlock := receiptBlockNumber d.receipt
          lastReferenceBlock := receiptBlockNumber d.receipt }
        requests := Function.update s.requests rid none
        said }
  | submitted {rid : ℕ} {reply : Except RpcError Json} {req : InvokeRequest}
      {contractAddress txHash : String}
      (hreq : s.requests rid = some (.invoking req contractAddress))
      (htx : submittedTxHash env.serde reply = .ok txHash) :
      Move env s (.submitted rid reply) { s with
        sessions := Function.update s.sessions req.sessionId { s.sessions req.sessionId with
          lastInvokeTx := some txHash }
        requests := Function.update s.requests rid (some (.confirming req txHash)) }
  | confirmed {rid : ℕ} {receipt : Json} {req : InvokeRequest} {txHash : String}
      {block : BitVec 64} {said : List (ℕ × Said)}
      (hreq : s.requests rid = some (.confirming req txHash))
      (hblock : receiptBlockNumber receipt = some block) :
      Move env s (.confirmed rid (.ok receipt)) { s with
        sessions := Function.update s.sessions req.sessionId { s.sessions req.sessionId with
          invokeBlock := some block }
        requests := Function.update s.requests rid none
        said }
  | readInvokeBlock {rid : ℕ} {sessionId txHash : String} {block : BitVec 64}
      (hreq : s.requests rid = some (.proving sessionId txHash .started))
      (hblock : (s.sessions sessionId).invokeBlock = some block) :
      Move env s (.readInvokeBlock rid) { s with
        requests := Function.update s.requests rid
          (some (.proving sessionId txHash (.located block))) }
  | waits {rid : ℕ} {sessionId txHash : String} {said : List (ℕ × Said)}
      (hreq : s.requests rid = some (.proving sessionId txHash .started)) :
      Move env s (.readInvokeBlock rid) { s with
        requests := Function.update s.requests rid (some (.proving sessionId txHash .waiting))
        said }
  | included {rid : ℕ} {sessionId txHash : String} {receipt : Json} {block : BitVec 64}
      (hreq : s.requests rid = some (.proving sessionId txHash .waiting))
      (hblock : receiptBlockNumber receipt = some block) :
      Move env s (.included rid (.ok receipt)) { s with
        requests := Function.update s.requests rid
          (some (.proving sessionId txHash (.located block))) }
  | storeProveBlock {rid : ℕ} {sessionId txHash : String} {block : BitVec 64}
      {said : List (ℕ × Said)}
      (hreq : s.requests rid = some (.proving sessionId txHash (.located block)))
      (hblock : block ≠ 0) :
      Move env s (.storeProveBlock rid) { s with
        sessions := Function.update s.sessions sessionId { s.sessions sessionId with
          proveBlock := some (block - 1) }
        requests := Function.update s.requests rid
          (some (.proving sessionId txHash (.preparing (block - 1))))
        said }
  | spawned {rid : ℕ} {sessionId txHash : String} {block : BitVec 64}
      (hreq : s.requests rid = some (.proving sessionId txHash (.preparing block))) :
      Move env s (.spawned rid (.ok ())) { s with
        scripts := Function.update s.scripts rid
          (some ⟨sessionId, txHash, block, false, false, none⟩)
        requests := Function.update s.requests rid (some (.proving sessionId txHash .running)) }
  | foundProof {rid : ℕ} {sessionId txHash : String} {script : Script} {success : Bool}
      {written : Written} (hreq : s.requests rid = some (.proving sessionId txHash .running))
      (hscript : s.scripts rid = some script) (hexit : script.exit = some success)
      (hfile : s.files (env.resolve (env.proofOutput sessionId)) = some written) :
      Move env s (.checkProof rid) { s with
        requests := Function.update s.requests rid (some (.proving sessionId txHash .found)) }
  | recordProof {rid : ℕ} {metadataLen : Except String (BitVec 64)} {sessionId txHash : String}
      {said : List (ℕ × Said)} (hreq : s.requests rid = some (.proving sessionId txHash .found)) :
      Move env s (.recordProof rid metadataLen) { s with
        sessions := Function.update s.sessions sessionId { s.sessions sessionId with
          proofFile := some (env.proofOutput sessionId) }
        requests := Function.update s.requests rid none
        reports := s.reports ++ [⟨rid, sessionId, txHash⟩]
        said }
  | writeProof {rid : ℕ} {text : String} {whole : Bool} {script : Script}
      (hscript : s.scripts rid = some script) (hexit : script.exit = none) :
      Move env s (.writeProof rid text whole) { s with
        files := Function.update s.files (env.resolve (env.proofOutput script.sessionId))
          (some ⟨text, if whole then some (.invoke script.txHash) else none⟩)
        scripts := Function.update s.scripts rid (some { script with wroteProof := whole }) }
  | writeFacts {rid : ℕ} {text : String} {whole : Bool} {script : Script}
      (hscript : s.scripts rid = some script) (hexit : script.exit = none) :
      Move env s (.writeFacts rid text whole) { s with
        files := Function.update s.files
          (env.resolve (factsOutput (env.proofOutput script.sessionId)))
          (some ⟨text, if whole then some (.invoke script.txHash) else none⟩)
        scripts := Function.update s.scripts rid (some { script with wroteFacts := whole }) }
  | exited {rid : ℕ} {success : Bool} {script : Script}
      (hscript : s.scripts rid = some script) (hexit : script.exit = none) :
      Move env s (.exited rid success) { s with
        scripts := Function.update s.scripts rid (some { script with exit := some success }) }
  | blockWrites {rid : ℕ} {facts : Bool} {text : String} {whole : Bool} {job : ProveJob}
      (hreq : s.requests rid = some (.provingBlock job .proving)) :
      Move env s (.blockWrites rid facts text whole) { s with
        files := Function.update s.files
          (env.resolve (if facts then factsOutput (env.proofOutput job.sessionId)
            else env.proofOutput job.sessionId))
          (some ⟨text, if whole then some (.block job) else none⟩) }
  | blockGoesOn {e : Event} {rid : ℕ} {job : ProveJob} {phase phase' : BlockPhase}
      (hreq : s.requests rid = some (.provingBlock job phase)) :
      Move env s e { s with
        requests := Function.update s.requests rid (some (.provingBlock job phase')) }
  | blockConfirmed {rid : ℕ} {receipt : Json} {job : ProveJob} {said : List (ℕ × Said)}
      (hreq : s.requests rid = some (.provingBlock job .verifying)) :
      Move env s (.blockConfirmed rid (.ok receipt)) { s with
        sessions := Function.update s.sessions job.sessionId { s.sessions job.sessionId with
          lastReferenceBlock := some ((receiptBlockNumber receipt).getD 0) }
        requests := Function.update s.requests rid none
        landings := s.landings ++ [⟨job.sessionId, (s.sessions job.sessionId).lastReferenceBlock,
          (receiptBlockNumber receipt).getD 0⟩]
        said }
  | readProof {rid : ℕ} {sessionId proofFile contractAddress : String} {proof : Written}
      (hreq : s.requests rid = some (.readingProof sessionId proofFile contractAddress))
      (hproof : s.files (env.resolve proofFile) = some proof) :
      Move env s (.readProof rid none) { s with
        requests := Function.update s.requests rid
          (some (.readingFacts sessionId proofFile contractAddress proof)) }
  | readFacts {rid : ℕ} {sessionId proofFile contractAddress : String} {proof facts : Written}
      {params : Felt → SubmitParams}
      (hreq : s.requests rid = some (.readingFacts sessionId proofFile contractAddress proof))
      (hfacts : s.files (env.resolve (proofFactsFile proofFile)) = some facts)
      (hparams : submitParams env contractAddress proof.text facts.text = .ok params) :
      Move env s (.readFacts rid none) { s with
        requests := Function.update s.requests rid
          (some (.signing sessionId contractAddress proof facts params)) }
  | signed {rid : ℕ} {n : BitVec 64} {sessionId contractAddress : String}
      {proof facts : Written} {params : Felt → SubmitParams} {built : Felt × Json}
      (hreq : s.requests rid = some (.signing sessionId contractAddress proof facts params))
      (hbuilt : Core.signAndBuildPayload env.sc (params (Felt.ofNat n.toNat)) = .ok built) :
      Move env s (.nonce rid (.ok n)) { s with
        requests := Function.update s.requests rid (some (.submitting sessionId built.1))
        payloads := s.payloads ++ [⟨contractAddress, proof, facts, built.2⟩] }

/-! ### Every step is a move -/

theorem arrive_eq_some {s s' : Server} {rid : ℕ} {r : Request} :
    s.arrive rid r = some s' ↔ rid = s.nextId ∧
      { s with nextId := rid + 1, requests := Function.update s.requests rid (some r) } = s' := by
  rw [Server.arrive]
  split <;> simp [*]

theorem reject_eq_some {s s' : Server} {rid : ℕ} {response : ErrorResponse} :
    s.reject rid response = some s' ↔ rid = s.nextId ∧
      { s with
        nextId := rid + 1
        said := s.said ++ [(rid, .answer (.error response))] } = s' := by
  rw [Server.reject]
  split <;> simp [*]

theorem Move.of_arrive {s s' : Server} {e : Event} {rid : ℕ} {r : Request}
    (h : Arrival env s e rid r) (hs : s.arrive rid r = some s') : Move env s e s' := by
  obtain ⟨hrid, rfl⟩ := arrive_eq_some.mp hs
  exact .arrival h hrid

theorem Move.of_reject {s s' : Server} {e : Event} {rid : ℕ} {response : ErrorResponse}
    (hs : s.reject rid response = some s') : Move env s e s' := by
  obtain ⟨hrid, rfl⟩ := reject_eq_some.mp hs
  exact .rejected hrid

theorem invokeIncrement_eq_ok {session : Session} {addresses : String × String} :
    invokeIncrement session = .ok addresses ↔
      session.contractAddress = some addresses.1 ∧ session.accountAddress = some addresses.2 := by
  rw [invokeIncrement, bind_eq_ok]
  constructor
  · rintro ⟨contractAddress, hcontract, h⟩
    obtain ⟨accountAddress, haccount, h⟩ := bind_eq_ok.mp h
    obtain rfl := pure_eq_ok.mp h
    exact ⟨okOr_eq_ok.mp hcontract, okOr_eq_ok.mp haccount⟩
  · rintro ⟨hcontract, haccount⟩
    exact ⟨_, okOr_eq_ok.mpr hcontract,
      bind_eq_ok.mpr ⟨_, okOr_eq_ok.mpr haccount, pure_eq_ok.mpr rfl⟩⟩

theorem submitProof_eq_ok {files : String → Option Written} {session : Session}
    {read : String × String} :
    submitProof env files session = .ok read ↔
      session.proofFile = some read.1 ∧ files (env.resolve read.1) ≠ none ∧
        session.contractAddress = some read.2 := by
  rw [submitProof, bind_eq_ok]
  constructor
  · rintro ⟨proofFile, hproof, h⟩
    rw [check_bind_eq_ok, failIf_eq_ok] at h
    obtain ⟨hfile, h⟩ := h
    obtain ⟨contractAddress, hcontract, h⟩ := bind_eq_ok.mp h
    obtain rfl := pure_eq_ok.mp h
    exact ⟨okOr_eq_ok.mp hproof, hfile, okOr_eq_ok.mp hcontract⟩
  · rintro ⟨hproof, hfile, hcontract⟩
    refine ⟨_, okOr_eq_ok.mpr hproof, ?_⟩
    rw [check_bind_eq_ok, failIf_eq_ok]
    exact ⟨hfile, bind_eq_ok.mpr ⟨_, okOr_eq_ok.mpr hcontract, pure_eq_ok.mpr rfl⟩⟩

theorem proveBlock_eq_ok {session : Streams.Session} {sessionId : String}
    {params : ProveBlockQuery} {job : ProveJob}
    (h : Streams.proveBlock session sessionId params = .ok job) :
    (session.lastReferenceBlock <|> session.deployBlock) = some job.referenceBlock ∧
      session.contractAddress = some job.contractAddress ∧ job.sessionId = sessionId := by
  obtain ⟨contractAddress, hcontract, h⟩ := bind_eq_ok.mp h
  obtain ⟨referenceBlock, hreference, h⟩ := bind_eq_ok.mp h
  obtain rfl := pure_eq_ok.mp h
  exact ⟨okOr_eq_ok.mp hreference, okOr_eq_ok.mp hcontract, rfl⟩

/-- **Every step is a move.** -/
theorem step_move {s s' : Server} {e : Event} (hs : step env s e = some s') : Move env s e s' := by
  cases e with
  | deployAccount rid sessionId => exact .of_arrive .deployAccount hs
  | deployCounter rid sessionId => exact .of_arrive .deployCounter hs
  | accountDeployed rid outcome =>
      simp only [step] at hs
      split at hs
      · next hreq =>
          obtain rfl := Option.some.inj hs
          exact .accountDeployed hreq
      · next hreq =>
          obtain rfl := Option.some.inj hs
          exact .ends hreq fun _ _ => nofun
      · cases hs
  | counterDeployed rid outcome =>
      simp only [step] at hs
      split at hs
      · next hreq =>
          obtain rfl := Option.some.inj hs
          exact .counterDeployed hreq
      · next hreq =>
          obtain rfl := Option.some.inj hs
          exact .ends hreq fun _ _ => nofun
      · cases hs
  | invoke rid req =>
      simp only [step] at hs
      split at hs
      · next h => exact .of_arrive (.invoke (invokeIncrement_eq_ok.mp h).1) hs
      · exact .of_reject hs
  | submitted rid reply =>
      simp only [step] at hs
      split at hs
      · next hreq =>
          split at hs
          · next htx =>
              obtain rfl := Option.some.inj hs
              exact .submitted hreq htx
          · obtain rfl := Option.some.inj hs
            exact .ends hreq fun _ _ => nofun
      · cases hs
  | confirmed rid reply =>
      simp only [step] at hs
      split at hs
      · next hreq =>
          split at hs
          · next hblock =>
              obtain rfl := Option.some.inj hs
              exact .confirmed hreq hblock
          · obtain rfl := Option.some.inj hs
            exact .ends hreq fun _ _ => nofun
      · next hreq =>
          obtain rfl := Option.some.inj hs
          exact .ends hreq fun _ _ => nofun
      · cases hs
  | prove rid sessionId =>
      simp only [step] at hs
      split at hs
      · next htx =>
          obtain ⟨hrid, rfl⟩ := arrive_eq_some.mp hs
          exact .arrival (.prove htx) hrid
      · exact .of_reject hs
  | readInvokeBlock rid =>
      simp only [step] at hs
      split at hs
      · next hreq =>
          split at hs
          · next hblock =>
              obtain rfl := Option.some.inj hs
              exact .readInvokeBlock hreq hblock
          · obtain rfl := Option.some.inj hs
            exact .waits hreq
      · cases hs
  | included rid reply =>
      simp only [step] at hs
      split at hs
      · next hreq =>
          split at hs
          · next hblock =>
              obtain rfl := Option.some.inj hs
              exact .included hreq hblock
          · obtain rfl := Option.some.inj hs
            exact .ends hreq fun _ _ => nofun
      · next hreq =>
          obtain rfl := Option.some.inj hs
          exact .ends hreq fun _ _ => nofun
      · cases hs
  | storeProveBlock rid =>
      simp only [step] at hs
      split at hs
      · next hreq =>
          split at hs
          · obtain rfl := Option.some.inj hs
            exact .ends hreq fun _ _ => nofun
          · next hblock =>
              obtain rfl := Option.some.inj hs
              exact .storeProveBlock hreq hblock
      · cases hs
  | spawned rid outcome =>
      simp only [step] at hs
      split at hs
      · next hreq =>
          obtain rfl := Option.some.inj hs
          exact .spawned hreq
      · next hreq =>
          obtain rfl := Option.some.inj hs
          exact .ends hreq fun _ _ => nofun
      · cases hs
  | checkProof rid =>
      simp only [step] at hs
      split at hs
      · next hreq hscript =>
          split at hs
          · next hfile =>
              obtain rfl := Option.some.inj hs
              exact .foundProof hreq hscript rfl hfile
          · obtain rfl := Option.some.inj hs
            exact .ends hreq fun _ _ _ => ⟨_, _, hscript, rfl⟩
      · cases hs
  | recordProof rid metadataLen =>
      simp only [step] at hs
      split at hs
      · next hreq =>
          obtain rfl := Option.some.inj hs
          exact .recordProof hreq
      · cases hs
  | writeProof rid text whole =>
      simp only [step] at hs
      split at hs
      · next hscript =>
          split at hs
          · next hexit =>
              obtain rfl := Option.some.inj hs
              exact .writeProof hscript hexit
          · cases hs
      · cases hs
  | writeFacts rid text whole =>
      simp only [step] at hs
      split at hs
      · next hscript =>
          split at hs
          · next hexit =>
              obtain rfl := Option.some.inj hs
              exact .writeFacts hscript hexit
          · cases hs
      · cases hs
  | exited rid success =>
      simp only [step] at hs
      split at hs
      · next hscript =>
          split at hs
          · next hexit =>
              obtain rfl := Option.some.inj hs
              exact .exited hscript hexit
          · cases hs
      · cases hs
  | proveBlock rid sessionId params =>
      simp only [step] at hs
      split at hs
      · next hjob =>
          obtain ⟨hrid, rfl⟩ := arrive_eq_some.mp hs
          exact .arrival (.proveBlock hjob) hrid
      · exact .of_reject hs
  | blockWrites rid facts text whole =>
      simp only [step] at hs
      split at hs
      · next hreq =>
          obtain rfl := Option.some.inj hs
          exact .blockWrites hreq
      · cases hs
  | blockProved rid outcome =>
      simp only [step] at hs
      split at hs
      · next hreq =>
          obtain rfl := Option.some.inj hs
          exact .blockGoesOn hreq
      · next hreq =>
          obtain rfl := Option.some.inj hs
          exact .ends hreq fun _ _ => nofun
      · cases hs
  | blockSubmitted rid outcome =>
      simp only [step] at hs
      split at hs
      · next hreq =>
          obtain rfl := Option.some.inj hs
          exact .blockGoesOn hreq
      · next hreq =>
          obtain rfl := Option.some.inj hs
          exact .ends hreq fun _ _ => nofun
      · cases hs
  | blockConfirmed rid reply =>
      simp only [step] at hs
      split at hs
      · next hreq =>
          obtain rfl := Option.some.inj hs
          exact .blockConfirmed hreq
      · next hreq =>
          obtain rfl := Option.some.inj hs
          exact .ends hreq fun _ _ => nofun
      · cases hs
  | submit rid sessionId =>
      simp only [step] at hs
      split at hs
      · next h =>
          obtain ⟨hproof, -, hcontract⟩ := submitProof_eq_ok.mp h
          exact .of_arrive (.submit hproof hcontract) hs
      · exact .of_reject hs
  | readProof rid error =>
      simp only [step] at hs
      split at hs
      · next hreq =>
          split at hs
          · next hproof =>
              obtain rfl := Option.some.inj hs
              exact .readProof hreq hproof
          · cases hs
      · next hreq =>
          obtain rfl := Option.some.inj hs
          exact .ends hreq fun _ _ => nofun
      · cases hs
  | readFacts rid error =>
      simp only [step] at hs
      split at hs
      · next hreq =>
          split at hs
          · next hfacts =>
              split at hs
              · next hparams =>
                  obtain rfl := Option.some.inj hs
                  exact .readFacts hreq hfacts hparams
              · obtain rfl := Option.some.inj hs
                exact .ends hreq fun _ _ => nofun
          · cases hs
      · next hreq =>
          obtain rfl := Option.some.inj hs
          exact .ends hreq fun _ _ => nofun
      · cases hs
  | nonce rid reply =>
      simp only [step] at hs
      split at hs
      · next hreq =>
          split at hs
          · next hbuilt =>
              obtain rfl := Option.some.inj hs
              exact .signed hreq hbuilt
          · obtain rfl := Option.some.inj hs
            exact .ends hreq fun _ _ => nofun
      · next hreq =>
          obtain rfl := Option.some.inj hs
          exact .ends hreq fun _ _ => nofun
      · cases hs
  | sent rid reply =>
      simp only [step] at hs
      split at hs
      · next hreq =>
          obtain rfl := Option.some.inj hs
          exact .ends hreq fun _ _ => nofun
      · next hreq =>
          obtain rfl := Option.some.inj hs
          exact .ends hreq fun _ _ => nofun
      · cases hs
  | cancel rid =>
      simp only [step] at hs
      split at hs
      · next hreq =>
          split at hs
          · next hcancel =>
              obtain rfl := Option.some.inj hs
              refine .ends hreq fun sessionId txHash hrun => ?_
              rw [hrun] at hcancel
              cases hcancel
          · cases hs
      · cases hs

/-! ### Looking for a proof -/

/-- A request looks for its proof: its session, and its script. -/
def Server.looksFor (s : Server) : Event → Option (String × Script)
  | .checkProof rid =>
      match s.requests rid, s.scripts rid with
      | some (.proving sessionId _ .running), some script => some (sessionId, script)
      | _, _ => none
  | _ => none

/-- When a request looks for its proof, its script has exited and there is a proof file, `P` holds
of the script. -/
def FindsProof (env : Env) (s : Server) (e : Event) (P : Script → Prop) : Prop :=
  ∀ look ∈ s.looksFor e, look.2.exit = none ∨
    s.files (env.resolve (env.proofOutput look.1)) = none ∨ P look.2

section Finds

variable {s : Server} {rid : ℕ} {P : Script → Prop}

instance [DecidablePred P] (e : Event) : Decidable (FindsProof env s e P) := by
  unfold FindsProof
  infer_instance

theorem FindsProof.script {sessionId txHash : String} {script : Script} {success : Bool}
    {written : Written} (h : FindsProof env s (.checkProof rid) P)
    (hreq : s.requests rid = some (.proving sessionId txHash .running))
    (hscript : s.scripts rid = some script) (hexit : script.exit = some success)
    (hfile : s.files (env.resolve (env.proofOutput sessionId)) = some written) : P script := by
  have hlook : s.looksFor (.checkProof rid) = some (sessionId, script) := by
    rw [Server.looksFor, hreq, hscript]
  rcases h _ hlook with hnone | hnone | h
  · rw [hexit] at hnone
    nomatch hnone
  · rw [hfile] at hnone
    nomatch hnone
  · exact h

end Finds

end Snip36.Playground
