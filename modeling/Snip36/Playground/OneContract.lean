import Snip36.Playground.Moves

/-!
# Playground — sessions and their contract

`deploy_counter` gives a session a new contract and leaves alone what the session has of an earlier
one: the increment, its proof, and the requests that are at work on them.  `submit_proof` signs
calldata of the contract that the session has by then, with the proof that it has.

`oneContract_of_cleanDeploy`: when a counter is only deployed on a session without a proof, when
what is proved is a call of the session's contract, and when a proof is reported by the script that
wrote it, then a session's proof is of a call of its contract, and no payload has the calldata of
one contract and the proof of another.
-/

namespace Snip36.Playground
open Support Signing CoinFlip Streams

/-- The contract that is called by what a proof was made from; `calls` says which contract the
transaction with a hash calls. -/
def Origin.contract (calls : String → Option String) : Origin → Option String
  | .invoke txHash => calls txHash
  | .block job => some job.contractAddress

/-- What is written is of a call of the contract, if of any. -/
def Written.About (calls : String → Option String) (contract : Option String) (w : Written) :
    Prop :=
  ∀ origin, w.origin = some origin → origin.contract calls = contract

/-- The proof and the facts of a payload are of a call of the contract of its calldata. -/
def Payload.About (calls : String → Option String) (payload : Payload) : Prop :=
  payload.proof.About calls (some payload.contractAddress) ∧
    payload.facts.About calls (some payload.contractAddress)

/-- The proofs of the sessions are of their contracts, and those of the payloads of the contracts
of their calldata. -/
structure OneContract (env : Env) (calls : String → Option String) (s : Server) : Prop where
  proofs : ∀ sessionId proofFile written, (s.sessions sessionId).proofFile = some proofFile →
    s.files (env.resolve proofFile) = some written →
    written.About calls (s.sessions sessionId).contractAddress
  payloads : ∀ payload ∈ s.payloads, payload.About calls

/-! ### Conditions -/

/-- The sessions `ids` have their own files, and the facts are read where they are written. -/
structure SeparateFiles (env : Env) (ids : String → Prop) : Prop where
  proof_inj : ∀ {i j}, ids i → ids j →
    env.resolve (env.proofOutput i) = env.resolve (env.proofOutput j) → i = j
  facts_inj : ∀ {i j}, ids i → ids j →
    env.resolve (factsOutput (env.proofOutput i))
      = env.resolve (factsOutput (env.proofOutput j)) → i = j
  proof_ne_facts : ∀ {i j}, ids i → ids j →
    env.resolve (env.proofOutput i) ≠ env.resolve (factsOutput (env.proofOutput j))
  read_facts : ∀ {i}, ids i →
    env.resolve (proofFactsFile (env.proofOutput i))
      = env.resolve (factsOutput (env.proofOutput i))

/-- A request that is at work on a proof. -/
def Request.makesProof : Request → Bool
  | .proving .. | .provingBlock .. => true
  | _ => false

/-- The session of a counter that is deployed. -/
def Server.redeploys (s : Server) : Event → Option String
  | .counterDeployed rid (.ok _) =>
      match s.requests rid with
      | some (.deployingCounter sessionId) => some sessionId
      | _ => none
  | _ => none

/-- The session of an increment that is to be proved. -/
def Event.proves : Event → Option String
  | .prove _ sessionId => some sessionId
  | _ => none

/-- The session of a block of increments that is to be proved. -/
def Event.provesBlock : Event → Option String
  | .proveBlock _ sessionId _ => some sessionId
  | _ => none

/-- When a counter is deployed, its session has no proof, and no request is at work on one; when
an increment is to be proved, it is a call of the session's contract; when a script has exited and
there is a proof file, the script wrote the proof and the facts; and only the sessions `ids` have
proofs made. -/
structure CleanDeploy (env : Env) (calls : String → Option String) (ids : String → Prop)
    (s : Server) (e : Event) : Prop where
  redeploys : ∀ sessionId ∈ s.redeploys e, (s.sessions sessionId).proofFile = none ∧
    ∀ rid < s.nextId, (s.requests rid).all fun r => !(r.makesProof && r.sessionId == sessionId)
  proves : ∀ sessionId ∈ e.proves, ids sessionId ∧ (s.sessions sessionId).lastInvokeTx.all
    fun txHash => calls txHash = (s.sessions sessionId).contractAddress
  finds : FindsProof env s e fun script => script.wroteProof = true ∧ script.wroteFacts = true
  provesBlock : ∀ sessionId ∈ e.provesBlock, ids sessionId

variable {env : Env} {calls : String → Option String} {ids : String → Prop}

instance [DecidablePred ids] (s : Server) (e : Event) : Decidable (CleanDeploy env calls ids s e) :=
  decidable_of_iff (_ ∧ _ ∧ _ ∧ _)
    ⟨fun h => ⟨h.1, h.2.1, h.2.2.1, h.2.2.2⟩, fun h => ⟨h.1, h.2, h.3, h.4⟩⟩

/-! ### The invariant -/

/-- The file of a session's proofs is about its contract. -/
def ProofAbout (env : Env) (calls : String → Option String) (s : Server) (sessionId : String) :
    Prop :=
  ∀ w, s.files (env.resolve (env.proofOutput sessionId)) = some w →
    w.About calls (s.sessions sessionId).contractAddress

/-- The file of the facts of a session's proofs is about its contract. -/
def FactsAbout (env : Env) (calls : String → Option String) (s : Server) (sessionId : String) :
    Prop :=
  ∀ w, s.files (env.resolve (factsOutput (env.proofOutput sessionId))) = some w →
    w.About calls (s.sessions sessionId).contractAddress

/-- The proof that a session has is about its contract. -/
def SessionAbout (env : Env) (calls : String → Option String) (ids : String → Prop) (s : Server)
    (sessionId : String) : Prop :=
  ∀ proofFile, (s.sessions sessionId).proofFile = some proofFile →
    proofFile = env.proofOutput sessionId ∧ ids sessionId ∧
      ProofAbout env calls s sessionId ∧ FactsAbout env calls s sessionId

/-- The script of a request, and what it has written, are about the contract of its session. -/
structure ScriptAbout (env : Env) (calls : String → Option String) (s : Server) (rid : ℕ)
    (sessionId txHash : String) (script : Script) : Prop where
  own : s.scripts rid = some script
  session : script.sessionId = sessionId
  tx : script.txHash = txHash
  proof : script.wroteProof = true → ProofAbout env calls s sessionId
  facts : script.wroteFacts = true → FactsAbout env calls s sessionId

/-- What a request has read is about the contract of its session. -/
def RequestAbout (env : Env) (calls : String → Option String) (ids : String → Prop) (s : Server)
    (rid : ℕ) : Request → Prop
  | .proving sessionId txHash phase =>
      ids sessionId ∧ calls txHash = (s.sessions sessionId).contractAddress ∧
        (phase = .running → ∃ script, ScriptAbout env calls s rid sessionId txHash script) ∧
        (phase = .found → ProofAbout env calls s sessionId ∧ FactsAbout env calls s sessionId)
  | .provingBlock job _ =>
      ids job.sessionId ∧
        (s.sessions job.sessionId).contractAddress = some job.contractAddress
  | .readingProof sessionId proofFile contractAddress =>
      (s.sessions sessionId).proofFile = some proofFile ∧
        (s.sessions sessionId).contractAddress = some contractAddress
  | .readingFacts sessionId proofFile contractAddress proof =>
      (s.sessions sessionId).proofFile = some proofFile ∧
        (s.sessions sessionId).contractAddress = some contractAddress ∧
        proof.About calls (some contractAddress)
  | .signing _ contractAddress proof facts _ =>
      proof.About calls (some contractAddress) ∧ facts.About calls (some contractAddress)
  | _ => True

/-- Everything is about the contract of its session, and scripts run for requests that wait. -/
structure AllAbout (env : Env) (calls : String → Option String) (ids : String → Prop)
    (s : Server) : Prop where
  sessions : ∀ sessionId, SessionAbout env calls ids s sessionId
  requests : ∀ rid r, s.requests rid = some r → RequestAbout env calls ids s rid r
  waited : ∀ rid script, s.scripts rid = some script → script.exit = none →
    s.requests rid = some (.proving script.sessionId script.txHash .running)
  payloads : ∀ payload ∈ s.payloads, payload.About calls
  idle : ∀ rid, s.nextId ≤ rid → s.requests rid = none

theorem AllAbout.oneContract {s : Server} (h : AllAbout env calls ids s) :
    OneContract env calls s where
  proofs sessionId proofFile written hproof hfile := by
    obtain ⟨rfl, -, habout, -⟩ := h.sessions sessionId proofFile hproof
    exact habout written hfile
  payloads := h.payloads

/-! ### What a move keeps of a session -/

/-- A move keeps the contract of a session, its proof file, and what its files are about. -/
structure KeepsSession (env : Env) (calls : String → Option String) (ids : String → Prop)
    (s s' : Server) (sessionId : String) : Prop where
  contract : (s'.sessions sessionId).contractAddress = (s.sessions sessionId).contractAddress
  proofFile : ∀ p, (s.sessions sessionId).proofFile = some p →
    (s'.sessions sessionId).proofFile = some p
  proof : ids sessionId → ProofAbout env calls s sessionId → ProofAbout env calls s' sessionId
  facts : ids sessionId → FactsAbout env calls s sessionId → FactsAbout env calls s' sessionId

/-- A move that writes no file. -/
theorem KeepsSession.of_eq {s s' : Server} {sessionId : String} (hfiles : s'.files = s.files)
    (hcontract : (s'.sessions sessionId).contractAddress = (s.sessions sessionId).contractAddress)
    (hproofFile : ∀ p, (s.sessions sessionId).proofFile = some p →
      (s'.sessions sessionId).proofFile = some p) :
    KeepsSession env calls ids s s' sessionId where
  contract := hcontract
  proofFile := hproofFile
  proof _ h := by
    rw [ProofAbout, hfiles, hcontract]
    exact h
  facts _ h := by
    rw [FactsAbout, hfiles, hcontract]
    exact h

/-- A move that writes no file and updates one session. -/
theorem KeepsSession.of_update {s s' : Server} {sessionId : String} {session : Session}
    (hfiles : s'.files = s.files)
    (hsessions : s'.sessions = Function.update s.sessions sessionId session)
    (hcontract : session.contractAddress = (s.sessions sessionId).contractAddress)
    (hproofFile : ∀ p, (s.sessions sessionId).proofFile = some p → session.proofFile = some p)
    (x : String) : KeepsSession env calls ids s s' x := by
  by_cases hx : x = sessionId
  · subst hx
    refine .of_eq hfiles ?_ ?_ <;> rw [hsessions, Function.update_self]
    · exact hcontract
    · exact hproofFile
  · refine .of_eq hfiles ?_ ?_ <;> rw [hsessions, Function.update_of_ne hx]
    exact fun _ => id

/-- A text about the contract of a session is written into the file of its proofs, or that of
their facts. -/
theorem KeepsSession.of_write {s s' : Server} {sessionId : String} (facts : Bool)
    {written : Written} (hsep : SeparateFiles env ids) (hid : ids sessionId)
    (hwritten : written.About calls (s.sessions sessionId).contractAddress)
    (hsessions : s'.sessions = s.sessions)
    (hfiles : s'.files = Function.update s.files
      (env.resolve (if facts then factsOutput (env.proofOutput sessionId)
        else env.proofOutput sessionId)) (some written)) (x : String) :
    KeepsSession env calls ids s s' x where
  contract := by rw [hsessions]
  proofFile := by
    rw [hsessions]
    exact fun _ => id
  proof hx h := by
    rw [ProofAbout, hfiles, hsessions]
    intro w hw
    rcases update_some_eq_some.mp hw with ⟨heq, rfl⟩ | ⟨-, hw⟩
    · cases facts with
      | true => exact absurd heq (hsep.proof_ne_facts hx hid)
      | false =>
          obtain rfl := hsep.proof_inj hx hid heq
          exact hwritten
    · exact h w hw
  facts hx h := by
    rw [FactsAbout, hfiles, hsessions]
    intro w hw
    rcases update_some_eq_some.mp hw with ⟨heq, rfl⟩ | ⟨-, hw⟩
    · cases facts with
      | true =>
          obtain rfl := hsep.facts_inj hx hid heq
          exact hwritten
      | false => exact absurd heq.symm (hsep.proof_ne_facts hid hx)
    · exact h w hw

/-- After the write, the file that was written is about the contract of its session. -/
theorem about_written {s s' : Server} {file sessionId : String} {written : Written}
    (hwritten : written.About calls (s.sessions sessionId).contractAddress)
    (hsessions : s'.sessions = s.sessions)
    (hfiles : s'.files = Function.update s.files file (some written)) :
    ∀ w, s'.files file = some w → w.About calls (s'.sessions sessionId).contractAddress := by
  intro w hw
  rw [hfiles, Function.update_self] at hw
  obtain rfl := Option.some.inj hw
  exact hsessions ▸ hwritten

theorem SessionAbout.keep {s s' : Server} {x : String} (h : SessionAbout env calls ids s x)
    (hk : KeepsSession env calls ids s s' x)
    (hproofFile : (s'.sessions x).proofFile = (s.sessions x).proofFile) :
    SessionAbout env calls ids s' x := by
  intro p hp
  obtain ⟨heq, hid, hproof, hfacts⟩ := h p (hproofFile.symm.trans hp)
  exact ⟨heq, hid, hk.proof hid hproof, hk.facts hid hfacts⟩

theorem ScriptAbout.keep {s s' : Server} {rid : ℕ} {sessionId txHash : String} {script : Script}
    (hk : KeepsSession env calls ids s s' sessionId) (hid : ids sessionId)
    (hscript : s'.scripts rid = s.scripts rid)
    (h : ScriptAbout env calls s rid sessionId txHash script) :
    ScriptAbout env calls s' rid sessionId txHash script where
  own := hscript.trans h.own
  session := h.session
  tx := h.tx
  proof hwrote := hk.proof hid (h.proof hwrote)
  facts hwrote := hk.facts hid (h.facts hwrote)

theorem RequestAbout.keep {s s' : Server} {rid : ℕ} {r : Request}
    (hk : KeepsSession env calls ids s s' r.sessionId)
    (hscript : s'.scripts rid = s.scripts rid) (h : RequestAbout env calls ids s rid r) :
    RequestAbout env calls ids s' rid r := by
  cases r with
  | proving sessionId txHash phase =>
      obtain ⟨hid, hcalls, hrunning, hfound⟩ := h
      refine ⟨hid, hcalls.trans hk.contract.symm, fun hphase => ?_, fun hphase => ?_⟩
      · obtain ⟨script, hold⟩ := hrunning hphase
        exact ⟨script, hold.keep hk hid hscript⟩
      · exact ⟨hk.proof hid (hfound hphase).1, hk.facts hid (hfound hphase).2⟩
  | provingBlock job phase => exact ⟨h.1, hk.contract.trans h.2⟩
  | readingProof sessionId proofFile contractAddress =>
      exact ⟨hk.proofFile _ h.1, hk.contract.trans h.2⟩
  | readingFacts sessionId proofFile contractAddress proof =>
      exact ⟨hk.proofFile _ h.1, hk.contract.trans h.2.1, h.2.2⟩
  | signing sessionId contractAddress proof facts params => exact h
  | _ => trivial

/-! ### What a step keeps -/

theorem AllAbout.rid_lt {s : Server} {rid : ℕ} {r : Request} (h : AllAbout env calls ids s)
    (hreq : s.requests rid = some r) : rid < s.nextId := by
  by_contra hle
  rw [h.idle rid (Nat.not_lt.mp hle)] at hreq
  cases hreq

/-- Without a request that waits for it, a script has exited. -/
theorem AllAbout.exited {s : Server} {rid : ℕ} (h : AllAbout env calls ids s)
    (hreq : ∀ sessionId txHash, s.requests rid = some (.proving sessionId txHash .running) →
      ∃ script success, s.scripts rid = some script ∧ script.exit = some success)
    (script : Script) (hscript : s.scripts rid = some script) : script.exit ≠ none := by
  intro hexit
  obtain ⟨script', success, hscript', hexit'⟩ := hreq _ _ (h.waited rid script hscript hexit)
  obtain rfl := Option.some.inj (hscript.symm.trans hscript')
  rw [hexit] at hexit'
  cases hexit'

/-- The request `rid`, whose script has exited, becomes `next`. -/
theorem AllAbout.update {s s' : Server} {rid : ℕ} {next : Option Request}
    (h : AllAbout env calls ids s) (hrequests : s'.requests = Function.update s.requests rid next)
    (hscripts : s'.scripts = s.scripts)
    (hkeeps : ∀ rid' r, s.requests rid' = some r → rid' ≠ rid →
      RequestAbout env calls ids s' rid' r)
    (hsessions : ∀ x, SessionAbout env calls ids s' x)
    (hnext : ∀ r, next = some r → RequestAbout env calls ids s' rid r)
    (hexited : ∀ script, s.scripts rid = some script → script.exit ≠ none)
    (hpayloads : ∀ payload ∈ s'.payloads, payload.About calls) (hlt : rid < s'.nextId)
    (hle : s.nextId ≤ s'.nextId) : AllAbout env calls ids s' where
  sessions := hsessions
  requests rid' r hreq := by
    rw [hrequests] at hreq
    by_cases hne : rid' = rid
    · subst hne
      rw [Function.update_self] at hreq
      exact hnext r hreq
    · rw [Function.update_of_ne hne] at hreq
      exact hkeeps rid' r hreq hne
  waited rid' script hscript hexit := by
    rw [hscripts] at hscript
    have hne : rid' ≠ rid := by
      rintro rfl
      exact hexited script hscript hexit
    rw [hrequests, Function.update_of_ne hne]
    exact h.waited rid' script hscript hexit
  payloads := hpayloads
  idle rid' hidle := by
    have hne : rid' ≠ rid := by omega
    rw [hrequests, Function.update_of_ne hne]
    exact h.idle rid' (hle.trans hidle)

/-- A request in flight becomes `next`, in a move that keeps all sessions. -/
theorem AllAbout.request {s s' : Server} {rid : ℕ} {r : Request} {next : Option Request}
    (h : AllAbout env calls ids s) (hreq : s.requests rid = some r)
    (hexit : ∀ sessionId txHash, r = .proving sessionId txHash .running →
      ∃ script success, s.scripts rid = some script ∧ script.exit = some success)
    (hrequests : s'.requests = Function.update s.requests rid next)
    (hkeeps : ∀ x, KeepsSession env calls ids s s' x)
    (hsessions : ∀ x, SessionAbout env calls ids s' x)
    (hnext : ∀ r', next = some r' → RequestAbout env calls ids s' rid r')
    (hscripts : s'.scripts = s.scripts) (hpayloads : ∀ payload ∈ s'.payloads, payload.About calls)
    (hnextId : s'.nextId = s.nextId) : AllAbout env calls ids s' := by
  refine h.update hrequests hscripts (fun rid' r' hr' _ => ?_) hsessions hnext
    (h.exited fun sessionId txHash hrun => ?_) hpayloads (hnextId ▸ h.rid_lt hreq) hnextId.ge
  · exact (h.requests rid' r' hr').keep (hkeeps _) (by rw [hscripts])
  · exact hexit _ _ (Option.some.inj (hreq.symm.trans hrun))

/-- A move that writes no file, and leaves the contracts and the proof files of the sessions
alone. -/
structure SameAbout (s s' : Server) : Prop where
  files : s'.files = s.files
  contract : ∀ x, (s'.sessions x).contractAddress = (s.sessions x).contractAddress
  proofFile : ∀ x, (s'.sessions x).proofFile = (s.sessions x).proofFile

theorem SameAbout.keeps {s s' : Server} (h : SameAbout s s') (x : String) :
    KeepsSession env calls ids s s' x :=
  .of_eq h.files (h.contract x) fun _ hp => (h.proofFile x).trans hp

/-- A request in flight becomes `next`, in such a move. -/
theorem AllAbout.same {s s' : Server} {rid : ℕ} {r : Request} {next : Option Request}
    (h : AllAbout env calls ids s) (hreq : s.requests rid = some r)
    (hexit : ∀ sessionId txHash, r = .proving sessionId txHash .running →
      ∃ script success, s.scripts rid = some script ∧ script.exit = some success)
    (hrequests : s'.requests = Function.update s.requests rid next) (hsame : SameAbout s s')
    (hnext : ∀ r', next = some r' → RequestAbout env calls ids s' rid r')
    (hscripts : s'.scripts = s.scripts) (hpayloads : s'.payloads = s.payloads)
    (hnextId : s'.nextId = s.nextId) : AllAbout env calls ids s' :=
  h.request hreq hexit hrequests hsame.keeps
    (fun x => (h.sessions x).keep (hsame.keeps x) (hsame.proofFile x)) hnext hscripts
    (hpayloads ▸ h.payloads) hnextId

/-- A request that comes in has read the contract of its session. -/
theorem Arrival.about {s : Server} {e : Event} {rid : ℕ} {r : Request}
    (harrival : Arrival env s e rid r) (hC : CleanDeploy env calls ids s e) :
    RequestAbout env calls ids s rid r := by
  cases harrival with
  | deployAccount | deployCounter | invoke => trivial
  | prove htx =>
      obtain ⟨hid, hcalls⟩ := hC.proves _ rfl
      rw [htx] at hcalls
      exact ⟨hid, of_decide_eq_true hcalls, nofun, nofun⟩
  | proveBlock hjob =>
      obtain ⟨-, hcontract, rfl⟩ := proveBlock_eq_ok hjob
      exact ⟨hC.provesBlock _ rfl, hcontract⟩
  | submit hproof hcontract => exact ⟨hproof, hcontract⟩

/-- A request comes in. -/
theorem AllAbout.arrival {s : Server} {e : Event} {rid : ℕ} {r : Request}
    {said : List (ℕ × Said)} (h : AllAbout env calls ids s) (harrival : Arrival env s e rid r)
    (hrid : rid = s.nextId) (hC : CleanDeploy env calls ids s e) :
    AllAbout env calls ids { s with
      nextId := rid + 1
      requests := Function.update s.requests rid (some r)
      said } := by
  have hkeeps : ∀ x, KeepsSession env calls ids s
      { s with nextId := rid + 1, requests := Function.update s.requests rid (some r), said } x :=
    fun x => .of_eq rfl rfl fun _ => id
  refine h.update rfl rfl (fun rid' r' hr' _ => (h.requests rid' r' hr').keep (hkeeps _) rfl)
    (fun x => (h.sessions x).keep (hkeeps x) rfl) (fun r' hr' => ?_)
    (h.exited fun sessionId txHash hrun => ?_) h.payloads (Nat.lt_succ_self _)
    (hrid ▸ Nat.le_succ _)
  · obtain rfl := Option.some.inj hr'
    exact (harrival.about hC).keep (hkeeps _) rfl
  · rw [h.idle rid hrid.ge] at hrun
    cases hrun

/-- A proof that was found is reported. -/
theorem AllAbout.recordProof {s s' : Server} {rid : ℕ} {sessionId txHash : String}
    {session : Session} (h : AllAbout env calls ids s)
    (hreq : s.requests rid = some (.proving sessionId txHash .found))
    (hsessions : s'.sessions = Function.update s.sessions sessionId session)
    (hsession : session = { s.sessions sessionId with
      proofFile := some (env.proofOutput sessionId) })
    (hrequests : s'.requests = Function.update s.requests rid none)
    (hfiles : s'.files = s.files) (hscripts : s'.scripts = s.scripts)
    (hpayloads : s'.payloads = s.payloads) (hnextId : s'.nextId = s.nextId) :
    AllAbout env calls ids s' := by
  obtain ⟨hid, -, -, hfound⟩ := h.requests rid _ hreq
  obtain ⟨hproof, hfacts⟩ := hfound rfl
  have hkeeps : ∀ x, KeepsSession env calls ids s s' x := by
    refine .of_update hfiles hsessions (by rw [hsession]) fun p hp => ?_
    obtain ⟨rfl, -⟩ := h.sessions sessionId p hp
    rw [hsession]
  refine h.request hreq (fun _ _ => nofun) hrequests hkeeps (fun x => ?_) nofun hscripts
    (hpayloads ▸ h.payloads) hnextId
  by_cases hx : x = sessionId
  · subst hx
    intro p hp
    rw [hsessions, Function.update_self, hsession] at hp
    obtain rfl := Option.some.inj hp
    exact ⟨rfl, hid, (hkeeps x).proof hid hproof, (hkeeps x).facts hid hfacts⟩
  · exact (h.sessions x).keep (hkeeps x) (by rw [hsessions, Function.update_of_ne hx])

/-- A counter is deployed on a session that has no proof. -/
theorem AllAbout.counterDeployed {s s' : Server} {rid : ℕ} {sessionId : String}
    {session : Session} (h : AllAbout env calls ids s)
    (hreq : s.requests rid = some (.deployingCounter sessionId))
    (hnone : (s.sessions sessionId).proofFile = none)
    (hclean : ∀ rid' < s.nextId, (s.requests rid').all fun r =>
      !(r.makesProof && r.sessionId == sessionId))
    (hsessions : s'.sessions = Function.update s.sessions sessionId session)
    (hsession : session.proofFile = (s.sessions sessionId).proofFile)
    (hrequests : s'.requests = Function.update s.requests rid none)
    (hfiles : s'.files = s.files) (hscripts : s'.scripts = s.scripts)
    (hpayloads : s'.payloads = s.payloads) (hnextId : s'.nextId = s.nextId) :
    AllAbout env calls ids s' := by
  have hkeeps : ∀ x, x ≠ sessionId → KeepsSession env calls ids s s' x := by
    intro x hx
    refine .of_eq hfiles ?_ ?_ <;> rw [hsessions, Function.update_of_ne hx]
    exact fun _ => id
  have hproofFile : ∀ x, (s'.sessions x).proofFile = (s.sessions x).proofFile := by
    rw [hsessions]
    exact apply_update_of_eq hsession
  refine h.update hrequests hscripts (fun rid' r hr' _ => ?_) (fun x => ?_) nofun
    (h.exited fun _ _ hrun => ?_) (hpayloads ▸ h.payloads) (hnextId ▸ h.rid_lt hreq) hnextId.ge
  · have habout := h.requests rid' r hr'
    by_cases hx : r.sessionId = sessionId
    · -- A request of the session is at no proof, and has read none.
      have hidle := hclean rid' (h.rid_lt hr')
      rw [hr'] at hidle
      cases r with
      | proving | provingBlock => simp [Request.makesProof, hx] at hidle
      | readingProof =>
          subst hx
          exact absurd (hnone.symm.trans habout.1) (Option.some_ne_none _).symm
      | readingFacts =>
          subst hx
          exact absurd (hnone.symm.trans habout.1) (Option.some_ne_none _).symm
      | signing => exact habout
      | _ => trivial
    · exact habout.keep (hkeeps _ hx) (by rw [hscripts])
  · by_cases hx : x = sessionId
    · subst hx
      intro p hp
      rw [hproofFile, hnone] at hp
      cases hp
    · exact (h.sessions x).keep (hkeeps x hx) (hproofFile x)
  · rw [hreq] at hrun
    cases hrun

/-- The script of a request is spawned. -/
theorem AllAbout.spawned {s s' : Server} {rid : ℕ} {sessionId txHash : String}
    {block : BitVec 64} (h : AllAbout env calls ids s)
    (hreq : s.requests rid = some (.proving sessionId txHash (.preparing block)))
    (hscripts : s'.scripts = Function.update s.scripts rid
      (some ⟨sessionId, txHash, block, false, false, none⟩))
    (hrequests : s'.requests = Function.update s.requests rid
      (some (.proving sessionId txHash .running)))
    (hsessions : s'.sessions = s.sessions) (hfiles : s'.files = s.files)
    (hpayloads : s'.payloads = s.payloads) (hnextId : s'.nextId = s.nextId) :
    AllAbout env calls ids s' := by
  have hsame : SameAbout s s' :=
    ⟨hfiles, fun x => by rw [hsessions], fun x => by rw [hsessions]⟩
  refine ⟨fun x => (h.sessions x).keep (hsame.keeps x) (hsame.proofFile x), ?_, ?_,
    hpayloads ▸ h.payloads, fun rid' hidle => ?_⟩
  · intro rid' r hr'
    rw [hrequests] at hr'
    rcases update_some_eq_some.mp hr' with ⟨rfl, rfl⟩ | ⟨hne, hr'⟩
    · obtain ⟨hid, hcalls, -⟩ := h.requests rid' _ hreq
      have hown : s'.scripts rid' = some ⟨sessionId, txHash, block, false, false, none⟩ := by
        rw [hscripts, Function.update_self]
      exact ⟨hid, by rw [hsessions, hcalls], fun _ => ⟨_, hown, rfl, rfl, nofun, nofun⟩, nofun⟩
    · refine (h.requests rid' r hr').keep (hsame.keeps _) ?_
      rw [hscripts, Function.update_of_ne hne]
  · intro rid' script hscript hexit
    rw [hscripts] at hscript
    rw [hrequests]
    rcases update_some_eq_some.mp hscript with ⟨rfl, rfl⟩ | ⟨hne, hscript⟩
    · rw [Function.update_self]
    · rw [Function.update_of_ne hne]
      exact h.waited rid' script hscript hexit
  · have hlt := h.rid_lt hreq
    rw [hrequests, Function.update_of_ne (by omega)]
    exact h.idle rid' (hnextId ▸ hidle)

/-- A script that has not exited writes, or exits. -/
theorem AllAbout.script {s s' : Server} {rid : ℕ} {script script' : Script}
    (h : AllAbout env calls ids s) (hscript : s.scripts rid = some script)
    (hexit : script.exit = none) (hkeeps : ∀ x, KeepsSession env calls ids s s' x)
    (hscripts : s'.scripts = Function.update s.scripts rid (some script'))
    (hsession : script'.sessionId = script.sessionId) (htx : script'.txHash = script.txHash)
    (hproof : script'.wroteProof = true →
      script.wroteProof = true ∨ ProofAbout env calls s' script.sessionId)
    (hfacts : script'.wroteFacts = true →
      script.wroteFacts = true ∨ FactsAbout env calls s' script.sessionId)
    (hsessions : s'.sessions = s.sessions) (hrequests : s'.requests = s.requests)
    (hpayloads : s'.payloads = s.payloads) (hnextId : s'.nextId = s.nextId) :
    AllAbout env calls ids s' := by
  have hreq := h.waited rid script hscript hexit
  refine ⟨fun x => (h.sessions x).keep (hkeeps x) (by rw [hsessions]), ?_, ?_,
    hpayloads ▸ h.payloads, ?_⟩
  · intro rid' r hr'
    rw [hrequests] at hr'
    by_cases hne : rid' = rid
    · subst hne
      obtain rfl := Option.some.inj (hreq.symm.trans hr')
      obtain ⟨hid, hcalls, hrunning, -⟩ := h.requests rid' _ hreq
      obtain ⟨own, hown⟩ := hrunning rfl
      obtain rfl := Option.some.inj (hscript.symm.trans hown.own)
      refine ⟨hid, hcalls.trans (by rw [hsessions]), fun _ => ⟨script', ?_⟩, nofun⟩
      refine ⟨by rw [hscripts, Function.update_self], hsession, htx, fun hw => ?_, fun hw => ?_⟩
      · exact (hproof hw).elim (fun hw => (hkeeps _).proof hid (hown.proof hw)) id
      · exact (hfacts hw).elim (fun hw => (hkeeps _).facts hid (hown.facts hw)) id
    · refine (h.requests rid' r hr').keep (hkeeps _) ?_
      rw [hscripts, Function.update_of_ne hne]
  · intro rid' own hown hrun
    rw [hscripts] at hown
    rw [hrequests]
    rcases update_some_eq_some.mp hown with ⟨rfl, rfl⟩ | ⟨-, hown⟩
    · rw [hsession, htx]
      exact hreq
    · exact h.waited rid' own hown hrun
  · rw [hrequests, hnextId]
    exact h.idle

/-- The requests and the scripts stay, in a move that keeps all sessions. -/
theorem AllAbout.stay {s s' : Server} (h : AllAbout env calls ids s)
    (hkeeps : ∀ x, KeepsSession env calls ids s s' x) (hsessions : s'.sessions = s.sessions)
    (hscripts : s'.scripts = s.scripts) (hrequests : s'.requests = s.requests)
    (hpayloads : s'.payloads = s.payloads) (hle : s.nextId ≤ s'.nextId) :
    AllAbout env calls ids s' where
  sessions x := (h.sessions x).keep (hkeeps x) (by rw [hsessions])
  requests rid r hreq :=
    (h.requests rid r (hrequests ▸ hreq)).keep (hkeeps _) (by rw [hscripts])
  waited := by
    rw [hscripts, hrequests]
    exact h.waited
  payloads := hpayloads ▸ h.payloads
  idle rid hidle := by
    rw [hrequests]
    exact h.idle rid (hle.trans hidle)

/-- What a script writes is about the contract of its session. -/
theorem AllAbout.written {s : Server} {rid : ℕ} {script : Script} (h : AllAbout env calls ids s)
    (hscript : s.scripts rid = some script) (hexit : script.exit = none) (text : String)
    (whole : Bool) :
    ids script.sessionId ∧
      (Written.mk text (if whole then some (.invoke script.txHash) else none)).About calls
        (s.sessions script.sessionId).contractAddress := by
  obtain ⟨hid, hcalls, -⟩ := h.requests rid _ (h.waited rid script hscript hexit)
  refine ⟨hid, fun origin horigin => ?_⟩
  cases whole with
  | false => cases horigin
  | true =>
      obtain rfl := Option.some.inj horigin
      exact hcalls

/-- **What a step keeps**, when it meets the condition. -/
theorem allAbout_step (hsep : SeparateFiles env ids) {s s' : Server} {e : Event}
    (h : AllAbout env calls ids s) (hC : CleanDeploy env calls ids s e)
    (hs : step env s e = some s') : AllAbout env calls ids s' := by
  cases step_move hs with
  | arrival harrival hrid => exact h.arrival harrival hrid hC
  | rejected hrid =>
      exact h.stay (fun x => .of_eq rfl rfl fun _ => id) rfl rfl rfl rfl (hrid ▸ Nat.le_succ _)
  | ends hreq hexit =>
      exact h.same hreq hexit rfl ⟨rfl, fun _ => rfl, fun _ => rfl⟩ nofun rfl rfl rfl
  | accountDeployed hreq | confirmed hreq _ | blockConfirmed hreq =>
      exact h.same hreq (fun _ _ => nofun) rfl
        ⟨rfl, apply_update_of_eq rfl, apply_update_of_eq rfl⟩ nofun rfl rfl rfl
  | counterDeployed hreq =>
      obtain ⟨hproof, hquiet⟩ := hC.redeploys _ (by rw [Server.redeploys, hreq]; rfl)
      exact h.counterDeployed hreq hproof hquiet rfl rfl rfl rfl rfl rfl rfl
  | submitted hreq _ =>
      refine h.same hreq (fun _ _ => nofun) rfl
        ⟨rfl, apply_update_of_eq rfl, apply_update_of_eq rfl⟩ (fun r' hr' => ?_) rfl rfl rfl
      obtain rfl := Option.some.inj hr'
      trivial
  | readInvokeBlock hreq _ | waits hreq | included hreq _ =>
      refine h.same hreq (fun _ _ => nofun) rfl ⟨rfl, fun _ => rfl, fun _ => rfl⟩
        (fun r' hr' => ?_) rfl rfl rfl
      obtain rfl := Option.some.inj hr'
      obtain ⟨hid, hcalls, -⟩ := h.requests _ _ hreq
      exact ⟨hid, hcalls, nofun, nofun⟩
  | @storeProveBlock rid sessionId txHash block said hreq hblock =>
      have hcontract : ∀ x, (Function.update s.sessions sessionId { s.sessions sessionId with
          proveBlock := some (block - 1) } x).contractAddress
            = (s.sessions x).contractAddress := apply_update_of_eq rfl
      refine h.same hreq (fun _ _ => nofun) rfl ⟨rfl, hcontract, apply_update_of_eq rfl⟩
        (fun r' hr' => ?_) rfl rfl rfl
      obtain rfl := Option.some.inj hr'
      obtain ⟨hid, hcalls, -⟩ := h.requests _ _ hreq
      exact ⟨hid, hcalls.trans (hcontract sessionId).symm, nofun, nofun⟩
  | spawned hreq => exact h.spawned hreq rfl rfl rfl rfl rfl rfl
  | @foundProof rid sessionId txHash script success written hreq hscript hexit hfile =>
      obtain ⟨hid, hcalls, hrunning, -⟩ := h.requests rid _ hreq
      obtain ⟨own, hown⟩ := hrunning rfl
      obtain rfl := Option.some.inj (hscript.symm.trans hown.own)
      have hwrote : script.wroteProof = true ∧ script.wroteFacts = true :=
        FindsProof.script hC.finds hreq hscript hexit hfile
      refine h.same hreq (fun _ _ _ => ⟨script, success, hscript, hexit⟩) rfl
        ⟨rfl, fun _ => rfl, fun _ => rfl⟩ (fun r' hr' => ?_) rfl rfl rfl
      obtain rfl := Option.some.inj hr'
      exact ⟨hid, hcalls, nofun, fun _ => ⟨hown.proof hwrote.1, hown.facts hwrote.2⟩⟩
  | recordProof hreq => exact h.recordProof hreq rfl rfl rfl rfl rfl rfl rfl
  | @writeProof rid text whole script hscript hexit =>
      obtain ⟨hid, hwritten⟩ := h.written hscript hexit text whole
      refine h.script hscript hexit (.of_write false hsep hid hwritten rfl rfl) rfl rfl
        rfl (fun _ => .inr ?_) .inl rfl rfl rfl rfl
      exact about_written hwritten rfl rfl
  | @writeFacts rid text whole script hscript hexit =>
      obtain ⟨hid, hwritten⟩ := h.written hscript hexit text whole
      refine h.script hscript hexit (.of_write true hsep hid hwritten rfl rfl) rfl rfl
        rfl .inl (fun _ => .inr ?_) rfl rfl rfl rfl
      exact about_written hwritten rfl rfl
  | exited hscript hexit =>
      exact h.script hscript hexit (fun x => .of_eq rfl rfl fun _ => id) rfl rfl rfl .inl .inl rfl
        rfl rfl rfl
  | @blockWrites rid facts text whole job hreq =>
      obtain ⟨hid, hcontract⟩ := h.requests rid _ hreq
      refine h.stay (.of_write facts hsep hid (fun origin horigin => ?_) rfl rfl) rfl rfl rfl rfl
        le_rfl
      cases whole with
      | false => cases horigin
      | true =>
          obtain rfl := Option.some.inj horigin
          exact hcontract.symm
  | blockGoesOn hreq =>
      refine h.same hreq (fun _ _ => nofun) rfl ⟨rfl, fun _ => rfl, fun _ => rfl⟩
        (fun r' hr' => ?_) rfl rfl rfl
      obtain rfl := Option.some.inj hr'
      exact h.requests _ _ hreq
  | @readProof rid sessionId proofFile contractAddress proof hreq hproof =>
      obtain ⟨hfile, hcontract⟩ := h.requests rid _ hreq
      obtain ⟨rfl, -, habout, -⟩ := h.sessions sessionId proofFile hfile
      refine h.same hreq (fun _ _ => nofun) rfl ⟨rfl, fun _ => rfl, fun _ => rfl⟩
        (fun r' hr' => ?_) rfl rfl rfl
      obtain rfl := Option.some.inj hr'
      exact ⟨hfile, hcontract, hcontract ▸ habout proof hproof⟩
  | @readFacts rid sessionId proofFile contractAddress proof facts params hreq hfacts hparams =>
      obtain ⟨hfile, hcontract, hproof⟩ := h.requests rid _ hreq
      obtain ⟨rfl, hid, -, habout⟩ := h.sessions sessionId proofFile hfile
      refine h.same hreq (fun _ _ => nofun) rfl ⟨rfl, fun _ => rfl, fun _ => rfl⟩
        (fun r' hr' => ?_) rfl rfl rfl
      obtain rfl := Option.some.inj hr'
      rw [hsep.read_facts hid] at hfacts
      exact ⟨hproof, hcontract ▸ habout facts hfacts⟩
  | @signed rid n sessionId contractAddress proof facts params built hreq hbuilt =>
      have hkeeps : ∀ x, KeepsSession env calls ids s { s with
          requests := Function.update s.requests rid (some (.submitting sessionId built.1))
          payloads := s.payloads ++ [⟨contractAddress, proof, facts, built.2⟩] } x :=
        fun x => .of_eq rfl rfl fun _ => id
      refine h.request hreq (fun _ _ => nofun) rfl hkeeps
        (fun x => (h.sessions x).keep (hkeeps x) rfl) (fun r' hr' => ?_) rfl
        (fun payload hpayload => ?_) rfl
      · obtain rfl := Option.some.inj hr'
        trivial
      · rcases List.mem_append.mp hpayload with hold | hnew
        · exact h.payloads payload hold
        · obtain rfl := List.mem_singleton.mp hnew
          exact h.requests rid _ hreq

theorem allAbout_new (files : String → Option Written) :
    AllAbout env calls ids (Server.new files) where
  sessions _ _ hproof := absurd hproof (Option.some_ne_none _).symm
  requests _ _ hreq := absurd hreq (Option.some_ne_none _).symm
  waited _ _ hscript := absurd hscript (Option.some_ne_none _).symm
  payloads _ hpayload := absurd hpayload List.not_mem_nil
  idle _ _ := rfl

/-- **A session's fields are about one contract**, in a run in which every counter is deployed on
a session without a proof, and every proof that is found is of a call of the session's contract and
written by the script that was waited for. -/
theorem oneContract_of_cleanDeploy (hsep : SeparateFiles env ids)
    {files : String → Option Written} {es : List Event}
    (hsteps : EveryStep (step env) (Server.new files) es (CleanDeploy env calls ids)) :
    EveryState (step env) (Server.new files) es (OneContract env calls) :=
  (everyState_of_everyStep (allAbout_new files) (fun _ _ _ => allAbout_step hsep) hsteps).mono
    fun _ h => h.oneContract

/-- The submission of the proof. -/
def submission (rid : ℕ) : List Event := [
  .submit rid "a",
  .readProof rid none,
  .readFacts rid none,
  .nonce rid (.ok 1),
  .sent rid (.ok "0x41")]

/-- What the increment of `firstProof` calls. -/
def sampleCalls (txHash : String) : Option String :=
  if txHash = "0x31" then some "0x11" else none

theorem separateFiles_sample : SeparateFiles sampleEnv (· = "a") where
  proof_inj hi hj _ := hi.trans hj.symm
  facts_inj hi hj _ := hi.trans hj.symm
  proof_ne_facts := by
    rintro i j rfl rfl
    decide +kernel
  read_facts := by
    rintro i rfl
    decide +kernel

/-- The theorem, for an increment that is proved and submitted. -/
theorem oneContract_firstProof :
    EveryState (step sampleEnv) (Server.new fun _ => none) (firstProof ++ submission 4)
      (OneContract sampleEnv sampleCalls) :=
  oneContract_of_cleanDeploy separateFiles_sample (everyStep_of_everyStep? (by decide +kernel))

/-- A second counter is deployed before the proof is submitted. -/
def redeployed : List Event := firstProof ++ [
  .deployCounter 4 "a",
  .counterDeployed 4 (.ok ⟨"0x10", "0x21", "0x22", receiptIn 9⟩)] ++ submission 5

/-- The calldata of the second counter is signed with the proof of a call of the first. -/
theorem redeployed_not_oneContract :
    ∃ s, Run (step sampleEnv) (Server.new fun _ => none) redeployed s ∧
      ¬ EveryState (step sampleEnv) (Server.new fun _ => none) redeployed
        (OneContract sampleEnv sampleCalls) := by
  have h : ((runEvents (step sampleEnv) (Server.new fun _ => none) redeployed).map fun s =>
      s.payloads.map fun payload =>
        (payload.contractAddress, payload.proof.origin.map (·.contract sampleCalls)))
        = some [("0x21", some (some "0x11"))] := by decide +kernel
  obtain ⟨s, hs, hview⟩ := Option.map_eq_some_iff.mp h
  have hrun := Run.of_runEvents hs
  refine ⟨s, hrun, fun hall => ?_⟩
  have hpayload : ("0x21", some (some "0x11")) ∈ s.payloads.map fun payload =>
      (payload.contractAddress, payload.proof.origin.map (·.contract sampleCalls)) :=
    hview ▸ List.mem_singleton_self _
  obtain ⟨payload, hmem, heq⟩ := List.mem_map.mp hpayload
  obtain ⟨hcontract, horigin⟩ := Prod.mk.inj heq
  obtain ⟨origin, hsome, hcalls⟩ := Option.map_eq_some_iff.mp horigin
  have habout := ((hall.last hrun).payloads payload hmem).1 origin hsome
  rw [hcalls, hcontract] at habout
  exact absurd habout (by decide)

end Snip36.Playground
